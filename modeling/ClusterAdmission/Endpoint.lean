import ClusterAdmission.Credentials
import ClusterAdmission.Text.Blank
import ClusterAdmission.Text.Numeral
import ClusterAdmission.Text.Split

/-!
# Where storages are reached

The host and port of a storage: those of its address if it has one, else those of the provider,
which depend on the region or on the account.
-/

namespace ClusterAdmission

/-- A host and a port. -/
structure Endpoint where
  host : String
  port : Nat
  deriving DecidableEq, Repr

/-- Why a storage has no endpoint. -/
inductive EndpointError where
  | invalidAddress (address : String)
  | missingRegion
  | missingAccount
  deriving DecidableEq, Repr

namespace EndpointError

/-- The message of an error. -/
def message (e : EndpointError) : String :=
  "cannot resolve endpoint for storage: " ++ match e with
    | invalidAddress address => address
    | missingRegion => "missing region"
    | missingAccount => "missing account name"

end EndpointError

namespace Endpoint

/-- The default port of the scheme of an address, and what follows the scheme. -/
def scheme? (address : List Char) : Option (Nat × List Char) :=
  match Text.dropStart? "https://".toList address with
  | some rest => some (443, rest)
  | none => (Text.dropStart? "http://".toList address).map fun rest => (80, rest)

/-- The characters that end an authority. -/
def endsAuthority (c : Char) : Bool := c == '/' || c == '?' || c == '#'

/-- The authority at the start of a text, without the user before the last `@`. -/
def authority (cs : List Char) : List Char :=
  let whole := cs.takeWhile fun c => !endsAuthority c
  match Text.cutLast '@' whole with
  | some (_, host) => host
  | none => whole

/-- The host of an authority, and the text of its port. A host in brackets ends at the first closing
bracket, and what follows is a port only behind a colon; any other host ends at the last colon. -/
def hostPort? : List Char → Option (List Char × Option (List Char))
  | '[' :: rest =>
    (Text.cutFirst ']' rest).map fun (host, after) => (host, Text.dropStart? [':'] after)
  | cs =>
    match Text.cutLast ':' cs with
    | some (host, port) => some (host, some port)
    | none => some (cs, none)

/-- The endpoint of an address. -/
def ofAddress? (address : List Char) : Option Endpoint := do
  let (defaultPort, rest) ← scheme? address
  let (host, portText) ← hostPort? (authority rest)
  if host.isEmpty then none
  let port ← match portText with
    | none => some defaultPort
    | some ds => Text.naturalUpTo? 65535 ds
  return { host := .ofList host, port }

/-- The endpoint of a storage under credentials. -/
def ofStorage (s : BackupStorageSpec) (c : StorageCredentials) : Except EndpointError Endpoint :=
  let address := Text.trim s.endpointUrl.toList
  if !address.isEmpty then
    match ofAddress? address with
    | some e => .ok e
    | none => .error (.invalidAddress (.ofList address))
  else
    match s.storageType with
    | .s3 =>
      if s.region = "" then .error .missingRegion
      else .ok { host := "s3." ++ s.region ++ ".amazonaws.com", port := 443 }
    | .azure =>
      if c.accessKey = "" then .error .missingAccount
      else .ok { host := c.accessKey ++ ".blob.core.windows.net", port := 443 }

example : ofAddress? "http://u:p@[::1]:9000/x@y".toList = some ⟨"::1", 9000⟩ := by decide

example : ofAddress? "https://h:443:1".toList = some ⟨"h:443", 1⟩ := by decide

end Endpoint

end ClusterAdmission
