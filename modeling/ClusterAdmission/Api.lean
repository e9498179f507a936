import ClusterAdmission.Store

/-!
# The API

Clients read and write the store through requests, which are data, as are the responses. `serve`
answers one request. A response that is not a success leaves the store as it is
(`serve_of_refused`), and so do reads.
-/

namespace ClusterAdmission

namespace Api

/-- A request to the API. -/
inductive Request where
  | get (p : Place)
  /-- The objects of a collection in a namespace, or in all. -/
  | list (c : Collection) (space : Option String)
  /-- A new object, whose name is in its body. -/
  | create (c : Collection) (space : String) (body : Json)
  | replace (p : Place) (body : Json)
  /-- An overlay on an object. -/
  | patch (p : Place) (body : Json)
  | delete (p : Place)

/-- The answer to a request. -/
inductive Response where
  | object (j : Json)
  | objects (js : List Json)
  | deleted
  | refused (code : Int) (message : String)

namespace Request

/-- The method of a request. -/
def method : Request → String
  | get _ | list .. => "GET"
  | create .. => "POST"
  | replace .. => "PUT"
  | patch .. => "PATCH"
  | delete _ => "DELETE"

/-- The collection that a request is about. -/
def collection : Request → Collection
  | get p | replace p _ | patch p _ | delete p => p.collection
  | list c _ | create c _ _ => c

/-- The namespace in the path of a request, if it has one. -/
def space? : Request → Option String
  | get p | replace p _ | patch p _ | delete p =>
    if p.collection.isNamespaced then some p.space else none
  | list c space => if c.isNamespaced then space else none
  | create c space _ => if c.isNamespaced then some space else none

/-- The name of the object that a request is about, empty for listings. -/
def name : Request → String
  | get p | replace p _ | patch p _ | delete p => p.name
  | list .. => ""
  | create _ _ body => Store.nameOf body

/-- What a request sends. -/
def body? : Request → Option Json
  | get _ | list .. | delete _ => none
  | create _ _ body | replace _ body | patch _ body => some body

/-- Whether a request can change the store. -/
def isWrite : Request → Bool
  | get _ | list .. => false
  | create .. | replace .. | patch .. | delete _ => true

/-- The status of a request that succeeds. -/
def successCode : Request → Int
  | create .. => 201
  | _ => 200

end Request

/-- The status of a response to a request. -/
def Response.code (r : Request) : Response → Int
  | refused code _ => code
  | _ => r.successCode

/-- The refusal of a request for an object that is missing. -/
def notFound (p : Place) : Response :=
  .refused 404 (p.collection.plural ++ " \"" ++ p.name ++ "\" not found")

/-- The refusal of a new object at a place that is taken. -/
def alreadyExists (p : Place) : Response :=
  .refused 409 (p.collection.plural ++ " \"" ++ p.name ++ "\" already exists")

/-- Keeps an object at a place and answers with what is kept. -/
def put (s : Store) (p : Place) (object : Json) : Store × Response :=
  (s.keep p object, .object (p.collection.kept object))

/-- Answers one request. -/
def serve (s : Store) : Request → Store × Response
  | .get p =>
    match s.get? p with
    | some object => (s, .object object)
    | none => (s, notFound p)
  | .list c space => (s, .objects (s.listed c space))
  | .create c space body =>
    let p : Place := ⟨c, c.spaceIn space, Store.nameOf body⟩
    if s.contains p then (s, alreadyExists p) else put s p body
  | .replace p body => if s.contains p then put s p body else (s, notFound p)
  | .patch p body =>
    match s.get? p with
    | some object => put s p (object.mergePatch body)
    | none => (s, notFound p)
  | .delete p => if s.contains p then (s.erase p, .deleted) else (s, notFound p)

/-! ## Faults -/

/-- A fault of the API: it refuses the requests that match. -/
structure Fault where
  method : String
  /-- The name of a collection. -/
  resource : String
  /-- The name of an object, or every name. -/
  name : Option String := none
  code : Int
  message : String
  deriving DecidableEq, Repr

/-- Whether a fault strikes a request. -/
def Fault.strikes (f : Fault) (r : Request) : Bool :=
  f.method = r.method && f.resource = r.collection.plural && f.name.all fun n => n = r.name

/-- Answers one request under faults, of which the first that strikes counts. -/
def serveUnder (faults : List Fault) (s : Store) (r : Request) : Store × Response :=
  match faults.find? fun f => f.strikes r with
  | some f => (s, .refused f.code f.message)
  | none => serve s r

@[simp] theorem serveUnder_nil (s : Store) (r : Request) : serveUnder [] s r = serve s r := rfl

/-! ## What requests leave alone -/

theorem serve_of_read {s : Store} {r : Request} (h : r.isWrite = false) : (serve s r).1 = s := by
  cases r with
  | get p =>
    simp only [serve]
    split <;> rfl
  | list c space => rfl
  | create | replace | patch | delete => cases h

theorem serve_of_refused {s : Store} {r : Request} {code : Int} {message : String}
    (h : (serve s r).2 = .refused code message) : (serve s r).1 = s := by
  cases r with
  | get p => exact serve_of_read rfl
  | list c space => rfl
  | create c space body =>
    by_cases taken : s.contains ⟨c, c.spaceIn space, Store.nameOf body⟩
    · simp [serve, taken]
    · simp [serve, taken, put] at h
  | replace p body =>
    by_cases taken : s.contains p
    · simp [serve, taken, put] at h
    · simp [serve, taken]
  | patch p body =>
    cases found : s.get? p with
    | some object => simp [serve, found, put] at h
    | none => simp [serve, found]
  | delete p =>
    by_cases taken : s.contains p
    · simp [serve, taken] at h
    · simp [serve, taken]

theorem serveUnder_of_read {faults : List Fault} {s : Store} {r : Request}
    (h : r.isWrite = false) : (serveUnder faults s r).1 = s := by
  unfold serveUnder
  split
  · rfl
  · exact serve_of_read h

end Api

end ClusterAdmission
