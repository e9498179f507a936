import ClusterAdmission.Json

/-!
# Reading back the fields of an object

What a record reader finds in an object that was built from a list of fields: a field that is always
written, one that is left out when it is not set, one that is left out when it has the value of its
own, and a list that is left out when it is empty. All of it is for `simp`: a codec of a record is
read back by the codecs of its fields.
-/

namespace ClusterAdmission.Json

/-! ## Codecs -/

/-- Reading gives back what was encoded, and no value is encoded as `null`, which would count as
left out. -/
structure Codes {α : Type} (encode : α → Json) (decode : Json → Option α) : Prop where
  read : ∀ a, decode (encode a) = some a
  ne_null : ∀ a, encode a ≠ .null

@[simp] theorem string?_str (s : String) : string? (.str s) = some s := rfl

@[simp] theorem bool?_bool (b : Bool) : bool? (.bool b) = some b := rfl

@[simp] theorem int32?_toInt (n : Int32) : int32? (.int n.toInt) = some n := by
  have hrange : Int32.minValue.toInt ≤ n.toInt ∧ n.toInt ≤ Int32.maxValue.toInt :=
    ⟨Int32.minValue_le_toInt n, Int32.toInt_le n⟩
  rw [int32?, intIn?, if_pos hrange, Option.map_some, Int32.ofInt_toInt]

@[simp] theorem codes_str : Codes .str string? := ⟨string?_str, by simp⟩

@[simp] theorem codes_bool : Codes .bool bool? := ⟨bool?_bool, by simp⟩

@[simp] theorem codes_int32 : Codes (fun n : Int32 => .int n.toInt) int32? :=
  ⟨int32?_toInt, by simp⟩

@[simp] theorem codes_list {α : Type} {encode : α → Json} {decode : Json → Option α}
    (h : Codes encode decode) : Codes (ofList encode) (list? decode) :=
  ⟨list?_ofList h.read, by simp [ofList]⟩

@[simp] theorem codes_map {α : Type} {encode : α → Json} {decode : Json → Option α}
    (h : Codes encode decode) : Codes (ofMap encode) (map? decode) :=
  ⟨map?_ofMap h.read, by simp [ofMap]⟩

namespace Record

variable {α : Type}

/-- The record of the fields that are there. -/
def ofFields (fields : List (String × Option Json)) : Record :=
  ⟨fields.filterMap fun (key, value) => value.map fun v => (key, v)⟩

@[simp] theorem record?_ofFields (names : List String) (fields : List (String × Option Json)) :
    (Json.ofFields fields).record? names = some (ofFields fields) := rfl

@[simp] theorem object?_ofFields (fields : List (String × Option Json)) :
    (Json.ofFields fields).object? = some (ofFields fields) := rfl

@[simp] theorem get?_ofFields_nil (key : String) : (ofFields []).get? key = none := rfl

@[simp] theorem get?_ofFields_cons (key k : String) (value : Option Json)
    (rest : List (String × Option Json)) :
    (ofFields ((k, value) :: rest)).get? key =
      (if key = k then value else none).or ((ofFields rest).get? key) := by
  cases value with
  | none => simp [ofFields, get?]
  | some v =>
    by_cases h : key = k
    · simp [ofFields, get?, Entries.get?, h]
    · simp [ofFields, get?, Entries.get?, h]

/-! ## Readers -/

@[simp] theorem required_eq (r : Record) (key : String) (decode : Json → Option α) :
    r.required key decode = (r.get? key).bind decode := rfl

/-- What becomes of the value of a field that has one of its own where it is left out. -/
def readDefault (decode : Json → Option α) (default : α) : Option Json → Option α
  | none => some default
  | some j => decode j

@[simp] theorem withDefault_eq (r : Record) (key : String) (decode : Json → Option α)
    (default : α) : r.withDefault key decode default = readDefault decode default (r.get? key) := by
  cases h : r.get? key with
  | none => simp [withDefault, readDefault, h]
  | some j => simp [withDefault, readDefault, h]

@[simp] theorem readDefault_some (decode : Json → Option α) (default : α) (j : Json) :
    readDefault decode default (some j) = decode j := rfl

/-- A text that is left out when it is empty. -/
@[simp] theorem readDefault_nonempty (s : String) :
    readDefault string? "" (if s = "" then none else some (.str s)) = some s := by
  by_cases h : s = ""
  · simp [readDefault, h]
  · simp [h]

/-- A list that is left out when it is empty. -/
@[simp] theorem readDefault_nonemptyList {encode : α → Json} {decode : Json → Option α}
    (h : Codes encode decode) (xs : List α) :
    readDefault (list? decode) [] (nonemptyList encode xs) = some xs := by
  cases xs with
  | nil => rfl
  | cons x xs => exact list?_ofList h.read (x :: xs)

/-- A map that is left out when it is empty. -/
@[simp] theorem readDefault_nonemptyMap {encode : α → Json} {decode : Json → Option α}
    (h : Codes encode decode) (m : SortedMap String α) :
    readDefault (map? decode) .empty (nonemptyMap encode m) = some m := by
  by_cases hempty : m.isEmpty
  · obtain ⟨entries, sorted⟩ := m
    obtain rfl : entries = [] := by simpa [SortedMap.isEmpty] using hempty
    rfl
  · simp [nonemptyMap, hempty, map?_ofMap h.read]

/-- What becomes of the value of a field that may be left out or `null`. -/
def readOptional (decode : Json → Option α) : Option Json → Option (Option α)
  | none => some none
  | some j => j.option? decode

@[simp] theorem optional_eq (r : Record) (key : String) (decode : Json → Option α) :
    r.optional key decode = readOptional decode (r.get? key) := by
  cases h : r.get? key with
  | none => simp [optional, readOptional, h]
  | some j => simp [optional, readOptional, h]

/-- A field that is left out when it is not set, of which reading gives back what `keep` keeps. -/
theorem readOptional_map_of_read {encode : α → Json} {decode : Json → Option α} {keep : α → α}
    (hread : ∀ a, decode (encode a) = some (keep a)) (hnull : ∀ a, encode a ≠ .null)
    (x : Option α) : readOptional decode (x.map encode) = some (x.map keep) := by
  cases x with
  | none => rfl
  | some a =>
    have hoption : option? decode (encode a) = (decode (encode a)).map some := by
      rw [option?]
      exact hnull a
    simp [readOptional, hoption, hread]

/-- A field that is left out when it is not set. -/
@[simp] theorem readOptional_map {encode : α → Json} {decode : Json → Option α}
    (h : Codes encode decode) (x : Option α) : readOptional decode (x.map encode) = some x := by
  rw [readOptional_map_of_read h.read h.ne_null, Option.map_id']

@[simp] theorem orDefault_eq [Inhabited α] (r : Record) (key : String)
    (decode : Json → Option α) :
    r.orDefault key decode = (readOptional decode (r.get? key)).map fun a => a.getD default := by
  rw [orDefault, optional_eq]

/-- A field that is always written, although it may be left out. -/
@[simp] theorem readOptional_some {encode : α → Json} {decode : Json → Option α}
    (h : Codes encode decode) (a : α) : readOptional decode (some (encode a)) = some (some a) :=
  readOptional_map h (some a)

@[simp] theorem readOptional_int32 (n : Int32) :
    readOptional int32? (some (.int n.toInt)) = some (some n) :=
  readOptional_some codes_int32 n

end Record

theorem get?_ofFields (fields : List (String × Option Json)) (key : String) :
    (ofFields fields).get? key = (Record.ofFields fields).get? key := rfl

end ClusterAdmission.Json
