import ClusterAdmission.Api.Program
import ClusterAdmission.Resource

/-!
# Clients of the API

Programs for single requests, with resources and secrets in their own types. A client refuses a
request whose namespace or name cannot stand in a path, and fails on an object that does not decode.
-/

namespace ClusterAdmission

namespace Api

variable {α : Type} {k : Kind}

/-! ## Paths -/

/-- Whether a character can stand in a path: no blank or control character of ASCII, no angle
bracket and no grave accent. Names are taken literally: a question mark, a hash, a slash or a
percent sign is part of the name that it stands in, and neither ends the path nor divides nor
escapes anything in it. -/
def isPathChar (c : Char) : Bool := ' ' < c && c ≠ '<' && c ≠ '>' && c.toNat ≠ 0x60

/-- Whether a name can stand in a path. -/
def isPathName (name : String) : Bool := name ≠ "" && name.toList.all isPathChar

/-- Whether a request can be sent: its namespace may be empty, the name of an object may not. -/
def Request.isSendable (r : Request) : Bool :=
  (r.space?.all fun space => space.toList.all isPathChar) &&
    match r with
    | .get p | .replace p _ | .patch p _ | .delete p => isPathName p.name
    | .list .. | .create .. => true

/-- Sends a request. -/
def send (r : Request) : Program Response := if r.isSendable then .call r .done else .fail .client

/-! ## Responses -/

/-- The object of a response. -/
def Response.read (decode : Json → Option α) : Response → Except Failure α
  | object j =>
    match decode j with
    | some a => .ok a
    | none => .error .client
  | refused code message => .error (.ofStatus code message)
  | objects _ | deleted => .error .client

/-- The objects of a response, all of which must decode. -/
def Response.readAll (decode : Json → Option α) : Response → Except Failure (List α)
  | objects js =>
    match js.mapM decode with
    | some as => .ok as
    | none => .error .client
  | refused code message => .error (.ofStatus code message)
  | object _ | deleted => .error .client

/-- Whether a deletion succeeded. -/
def Response.readDeleted : Response → Except Failure Unit
  | deleted => .ok ()
  | refused code message => .error (.ofStatus code message)
  | object _ | objects _ => .error .client

/-- Sends a request whose response is one object. -/
def sendFor (decode : Json → Option α) (r : Request) : Program α := do
  let response ← send r
  .ofResult (response.read decode)

/-- Sends a deletion. -/
def sendDelete (p : Place) : Program Unit := do
  let response ← send (.delete p)
  .ofResult response.readDeleted

/-! ## Resources -/

/-- The place of a resource. -/
def resourcePlace (k : Kind) (space name : String) : Place :=
  ⟨.resources k, (Collection.resources k).spaceIn space, name⟩

/-- Reads a resource. -/
def getResource (k : Kind) (space name : String) : Program (Resource k) :=
  sendFor (Resource.ofJson? k) (.get (resourcePlace k space name))

/-- Reads the resources of a kind in a namespace, or in all. -/
def listResources (k : Kind) (space : Option String) : Program (List (Resource k)) := do
  let response ← send (.list (.resources k) space)
  .ofResult (response.readAll (Resource.ofJson? k))

/-- Creates a resource. -/
def createResource (r : Resource k) : Program (Resource k) :=
  sendFor (Resource.ofJson? k)
    (.create (.resources k) ((Collection.resources k).spaceIn r.space) r.toJson)

/-- Replaces the resource of a name. -/
def replaceResource (space name : String) (r : Resource k) : Program (Resource k) :=
  sendFor (Resource.ofJson? k) (.replace (resourcePlace k space name) r.toJson)

/-- Deletes a resource. -/
def deleteResource (k : Kind) (space name : String) : Program Unit :=
  sendDelete (resourcePlace k space name)

/-! ## Secrets -/

/-- The place of a secret. -/
def secretPlace (space name : String) : Place := ⟨.secrets, space, name⟩

/-- Reads the texts of a secret. -/
def getSecret (space name : String) : Program SecretData := do
  let bytes ← sendFor Secret.ofJson? (.get (secretPlace space name))
  .ofResult (Secret.texts name bytes)

/-- Creates a secret. -/
def createSecret (space name : String) (data : SecretData) : Program Unit := do
  let _ ← sendFor Secret.ofJson? (.create .secrets space (Secret.newJson space name data))
  return ()

/-- Sets texts of a secret. -/
def patchSecret (space name : String) (data : SecretData) : Program Unit := do
  let _ ← sendFor Secret.ofJson? (.patch (secretPlace space name) (Secret.patchJson data))
  return ()

/-- The result of removing what may be gone already. -/
def unlessGone : Except Failure Unit → Except Failure Unit
  | .error (.notFound _) => .ok ()
  | result => result

/-- Deletes a secret; one that is already gone is fine. -/
def deleteSecret (space name : String) : Program Unit := do
  let result ← (sendDelete (secretPlace space name)).attempt
  .ofResult (unlessGone result)

end Api

end ClusterAdmission
