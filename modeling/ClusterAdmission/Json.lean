import ClusterAdmission.Binary64
import ClusterAdmission.SortedMap

/-!
# JSON values

Objects are lists of members. Reading a text gives them in key order, one member for each key; the
functions here do not rely on it. Numbers are integers where they are written as such and fit into
64 bits, and binary64 numbers otherwise.
-/

namespace ClusterAdmission

/-- A JSON value. -/
inductive Json where
  | null
  | bool (b : Bool)
  | int (n : Int)
  | real (x : Binary64)
  | str (s : String)
  | arr (elements : List Json)
  | obj (members : List (String × Json))
  deriving Repr, Inhabited

namespace Json

mutual

/-- Whether two values are the same. -/
def same : Json → Json → Bool
  | .null, .null => true
  | .bool b, .bool c => b == c
  | .int m, .int n => m == n
  | .real x, .real y => decide (x = y)
  | .str s, .str t => s == t
  | .arr xs, .arr ys => sameElements xs ys
  | .obj ms, .obj ns => sameMembers ms ns
  | _, _ => false

/-- Whether two lists of elements are the same. -/
def sameElements : List Json → List Json → Bool
  | [], [] => true
  | x :: xs, y :: ys => same x y && sameElements xs ys
  | _, _ => false

/-- Whether two lists of members are the same. -/
def sameMembers : List (String × Json) → List (String × Json) → Bool
  | [], [] => true
  | (k, x) :: ms, (l, y) :: ns => k == l && same x y && sameMembers ms ns
  | _, _ => false

end

mutual

theorem same_iff : ∀ a b : Json, same a b = true ↔ a = b
  | .null, b => by cases b <;> simp [same]
  | .bool _, b => by cases b <;> simp [same]
  | .int _, b => by cases b <;> simp [same]
  | .real _, b => by cases b <;> simp [same]
  | .str _, b => by cases b <;> simp [same]
  | .arr xs, b => by cases b <;> simp [same, sameElements_iff xs]
  | .obj ms, b => by cases b <;> simp [same, sameMembers_iff ms]

theorem sameElements_iff : ∀ xs ys : List Json, sameElements xs ys = true ↔ xs = ys
  | [], ys => by cases ys <;> simp [sameElements]
  | x :: xs, ys => by cases ys <;> simp [sameElements, same_iff x, sameElements_iff xs]

theorem sameMembers_iff :
    ∀ ms ns : List (String × Json), sameMembers ms ns = true ↔ ms = ns
  | [], ns => by cases ns <;> simp [sameMembers]
  | (k, x) :: ms, ns => by
    cases ns <;> simp [sameMembers, same_iff x, sameMembers_iff ms, Prod.ext_iff, and_assoc]

end

instance : DecidableEq Json := fun a b => decidable_of_iff _ (same_iff a b)

/-- The members of an object. -/
abbrev Members := List (String × Json)

/-- The member of an object under a key. -/
def get? (j : Json) (key : String) : Option Json :=
  match j with
  | .obj ms => Entries.get? key ms
  | _ => none

/-- The object of the fields that are there. -/
def ofFields (fields : List (String × Option Json)) : Json :=
  .obj (fields.filterMap fun (key, value) => value.map fun v => (key, v))

/-- Whether a value is `null`. -/
def isNull : Json → Bool
  | .null => true
  | _ => false

/-- The array of the encoded elements. -/
def ofList {α : Type} (encode : α → Json) (xs : List α) : Json := .arr (xs.map encode)

/-- The object of the encoded values of a map. -/
def ofMap {α : Type} (encode : α → Json) (m : SortedMap String α) : Json :=
  .obj (m.entries.map fun e => (e.1, encode e.2))

/-- A list that is left out when it is empty. -/
def nonemptyList {α : Type} (encode : α → Json) (xs : List α) : Option Json :=
  if xs.isEmpty then none else some (ofList encode xs)

/-- A map that is left out when it is empty. -/
def nonemptyMap {α : Type} (encode : α → Json) (m : SortedMap String α) : Option Json :=
  if m.isEmpty then none else some (ofMap encode m)

/-- The string, or `null` where there is none. -/
def ofString? (s : Option String) : Json := (s.map Json.str).getD .null

/-! ## Reading values -/

/-- A string. -/
def string? : Json → Option String
  | .str s => some s
  | _ => none

/-- A truth value. -/
def bool? : Json → Option Bool
  | .bool b => some b
  | _ => none

/-- An integer between `lo` and `hi`. -/
def intIn? (lo hi : Int) : Json → Option Int
  | .int n => if lo ≤ n ∧ n ≤ hi then some n else none
  | _ => none

/-- A signed integer of 32 bits. -/
def int32? (j : Json) : Option Int32 :=
  (j.intIn? Int32.minValue.toInt Int32.maxValue.toInt).map Int32.ofInt

/-- A signed integer of 64 bits. -/
def int64? (j : Json) : Option Int64 :=
  (j.intIn? Int64.minValue.toInt Int64.maxValue.toInt).map Int64.ofInt

/-- A natural number below `2^64`. -/
def word? (j : Json) : Option Nat := (j.intIn? 0 (UInt64.size - 1)).map Int.toNat

/-- A number, rounded to binary64. -/
def number? : Json → Option Binary64
  | .int n => some (.ofInt n)
  | .real x => some x
  | _ => none

/-- A list of values of one kind. -/
def list? {α : Type} (decode : Json → Option α) : Json → Option (List α)
  | .arr xs => xs.mapM decode
  | _ => none

/-- A member whose value is of one kind. -/
def pair? {α : Type} (decode : Json → Option α) (member : String × Json) :
    Option (String × α) :=
  (decode member.2).map fun v => (member.1, v)

/-- A map from strings to values of one kind. -/
def map? {α : Type} (decode : Json → Option α) : Json → Option (SortedMap String α)
  | .obj ms => (ms.mapM (pair? decode)).map SortedMap.ofList
  | _ => none

/-- Any value but `null`; `null` stands for no value. -/
def option? {α : Type} (decode : Json → Option α) : Json → Option (Option α)
  | .null => some none
  | j => (decode j).map some

/-- One of the values that a table names. The name is a string, or the only key of an object that
holds `null`. -/
def tag? {α : Type} (table : List (String × α)) : Json → Option α
  | .str s => table.lookup s
  | .obj [(s, .null)] => table.lookup s
  | _ => none

/-- The fields of a record by name. -/
structure Record where
  members : Members

/-- The record whose fields have the given names: an object, or an array of its first fields in the
order of their names. -/
def record? (names : List String) : Json → Option Record
  | .obj ms => some ⟨ms⟩
  | .arr xs => if xs.length ≤ names.length then some ⟨names.zip xs⟩ else none
  | _ => none

/-- The fields of an object by name. -/
def object? : Json → Option Record
  | .obj ms => some ⟨ms⟩
  | _ => none

namespace Record

variable {α : Type}

/-- The value of a field, if it is there. -/
def get? (r : Record) (key : String) : Option Json := Entries.get? key r.members

/-- A field that must be there. -/
def required (r : Record) (key : String) (decode : Json → Option α) : Option α :=
  (r.get? key).bind decode

/-- A field that has a value of its own where it is left out. -/
def withDefault (r : Record) (key : String) (decode : Json → Option α) (default : α) : Option α :=
  match r.get? key with
  | none => some default
  | some j => decode j

/-- A field that may be left out or `null`. -/
def optional (r : Record) (key : String) (decode : Json → Option α) : Option (Option α) :=
  match r.get? key with
  | none => some none
  | some j => j.option? decode

/-- A field that has a value of its own where it is left out or `null`. -/
def orDefault [Inhabited α] (r : Record) (key : String) (decode : Json → Option α) : Option α :=
  (r.optional key decode).map fun a => a.getD default

end Record

/-! ## Merging -/

mutual

/-- Overlays `patch` on `target`: members of objects are overlaid one by one, a `null` member
removes, and anything else replaces. -/
def mergePatch (target : Json) : Json → Json
  | .obj patches =>
    let ms := match target with
      | .obj ms => ms
      | _ => []
    .obj (mergeMembers ms patches)
  | patch => patch

/-- Overlays the members of a patch on those of an object. -/
def mergeMembers (ms : Members) : Members → Members
  | [] => ms
  | (key, .null) :: patches => mergeMembers (Entries.erase key ms) patches
  | (key, patch) :: patches =>
    let merged := mergePatch ((Entries.get? key ms).getD .null) patch
    mergeMembers (Entries.insert key merged ms) patches

end

/-- Encoding a map and reading it again changes nothing, if that holds of its values. -/
theorem map?_ofMap {α : Type} {encode : α → Json} {decode : Json → Option α}
    (h : ∀ a, decode (encode a) = some a) (m : SortedMap String α) :
    map? decode (ofMap encode m) = some m := by
  have hmap : ∀ es : List (String × α),
      (es.map fun e => (e.1, encode e.2)).mapM (pair? decode) = some es := by
    intro es
    induction es with
    | nil => rfl
    | cons e rest ih => simp [List.mapM_cons, pair?, h, ih]
  simp [map?, ofMap, hmap]

/-- Encoding a list and reading it again changes nothing, if that holds of its elements. -/
theorem list?_ofList {α : Type} {encode : α → Json} {decode : Json → Option α}
    (h : ∀ a, decode (encode a) = some a) (xs : List α) :
    list? decode (ofList encode xs) = some xs := by
  simp only [list?, ofList]
  induction xs with
  | nil => rfl
  | cons x xs ih => simp [List.mapM_cons, h, ih]

end Json

end ClusterAdmission
