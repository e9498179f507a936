import ClusterAdmission.Credentials
import ClusterAdmission.Encoding.Base64
import ClusterAdmission.Error
import ClusterAdmission.Resource.Metadata

/-!
# Secrets

A secret holds bytes under keys. Its JSON object has them in base64 under `data`; whoever writes one
may give texts under `stringData` instead, which the API moves over before it keeps the secret.
-/

namespace ClusterAdmission

namespace Secret

/-- The version of the API that secrets belong to. -/
def apiVersion : String := "v1"

/-- The kind that secrets carry. -/
def kind : String := "Secret"

/-! ## What clients send -/

/-- The JSON object of texts under keys. -/
def textsJson (data : SecretData) : Json := .ofMap Json.str data

/-- The JSON object of a new secret. -/
def newJson (space name : String) (data : SecretData) : Json :=
  .obj
    [("apiVersion", .str apiVersion),
      ("kind", .str kind),
      ("metadata", .obj [("name", .str name), ("namespace", .str space)]),
      ("stringData", textsJson data),
      ("type", .str "Opaque")]

/-- The patch that sets texts and leaves other keys alone. -/
def patchJson (data : SecretData) : Json := .obj [("stringData", textsJson data)]

/-! ## What the API keeps -/

/-- A text as a secret keeps it. -/
def encodedText (j : Json) : Json := .str (Base64.ofText (j.string?.getD ""))

/-- Puts texts into the encoded data. -/
def insertTexts (data : Json.Members) (texts : Json.Members) : Json.Members :=
  texts.foldl (fun d e => Entries.insert e.1 (encodedText e.2) d) data

/-- The object with its texts moved into the encoded data. -/
def sealTexts : Json → Json
  | .obj ms =>
    let rest := Entries.erase "stringData" ms
    match Entries.get? "stringData" ms with
    | some (.obj (text :: texts)) =>
      let data := match Entries.get? "data" rest with
        | some (.obj d) => d
        | _ => []
      .obj (Entries.insert "data" (.obj (insertTexts data (text :: texts))) rest)
    | _ => .obj rest
  | j => j

/-! ## What clients read -/

/-- Bytes in base64. -/
def bytes? (j : Json) : Option (List UInt8) := j.string?.bind fun s => Base64.decode? s.toList

/-- Whether a field is left out or holds the text `expected`. -/
def isAbsentOr (expected : String) : Option Json → Bool
  | none => true
  | some j => j.string? == some expected

/-- Reads a secret: the bytes under its keys. -/
def ofJson? : Json → Option (SortedMap String (List UInt8))
  | .obj ms => do
    let fields : Json.Record := ⟨ms⟩
    guard (isAbsentOr apiVersion (fields.get? "apiVersion"))
    guard (isAbsentOr kind (fields.get? "kind"))
    let _ ← fields.optional "metadata" Metadata.ofJson?
    let _ ← fields.optional "immutable" Json.bool?
    let _ ← fields.optional "type" Json.string?
    let _ ← fields.optional "stringData" (Json.map? Json.string?)
    let data ← fields.optional "data" (Json.map? bytes?)
    return data.getD .empty
  | _ => none

/-- The text of a value of the secret `name`; other bytes are a failure. -/
def entryText (name : String) (entry : String × List UInt8) : Except Failure (String × String) :=
  match Base64.text? entry.2 with
  | some text => .ok (entry.1, text)
  | none => .error (.dependency (.secretNotText name entry.1))

/-- The texts of the secret `name`; the first value in key order that is none fails. -/
def texts (name : String) (bytes : SortedMap String (List UInt8)) : Except Failure SecretData :=
  (bytes.entries.mapM (entryText name)).map SortedMap.ofList

example :
    sealTexts (newJson "ns" "s" (.ofList [("k", "hi")])) =
      .obj
        [("apiVersion", .str "v1"),
          ("data", .obj [("k", .str "aGk=")]),
          ("kind", .str "Secret"),
          ("metadata", .obj [("name", .str "s"), ("namespace", .str "ns")]),
          ("type", .str "Opaque")] := by
  rfl

end Secret

end ClusterAdmission
