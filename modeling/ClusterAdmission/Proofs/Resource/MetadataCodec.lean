import ClusterAdmission.Proofs.Resource.SpecCodec
import ClusterAdmission.Proofs.Time.Timestamp

/-!
# Metadata are read back

Metadata are read back as they were written, but for their instants, which are cut to the whole
second (`Metadata.ofJson?_toJson`). With the specification this gives back every resource of a
kind on which nothing is reported (`Resource.ofJson?_toJson_unreported`).
-/

namespace ClusterAdmission

@[simp] theorem Json.int64?_toInt (n : Int64) : int64? (.int n.toInt) = some n := by
  have hrange : Int64.minValue.toInt ≤ n.toInt ∧ n.toInt ≤ Int64.maxValue.toInt :=
    ⟨Int64.minValue_le_toInt n, Int64.toInt_le n⟩
  rw [int64?, intIn?, if_pos hrange, Option.map_some, Int64.ofInt_toInt]

@[simp] theorem Json.codes_int64 : Codes (fun n : Int64 => .int n.toInt) int64? :=
  ⟨int64?_toInt, by simp⟩

namespace Timestamp

theorem ofJson?_toJson (t : Timestamp) : ofJson? t.toJson = some t.cut := by
  rw [ofJson?, toJson, Json.string?_str, Option.bind_some, parse?_wholeText]

@[simp] theorem readOptional_toJson (t : Option Timestamp) :
    Json.Record.readOptional ofJson? (t.map toJson) = some (t.map cut) :=
  Json.Record.readOptional_map_of_read ofJson?_toJson (by simp [toJson]) t

end Timestamp

/-! ## Owners and writers -/

@[simp] theorem FieldSet.codes : Json.Codes toJson ofJson? where
  read f := dif_pos f.isNull_eq
  ne_null f h := by
    have hnull := f.isNull_eq
    rw [show f.json = .null from h] at hnull
    cases hnull

@[simp] theorem OwnerReference.codes : Json.Codes toJson ofJson? where
  read o := by simp [ofJson?, toJson]
  ne_null o := by simp [toJson, Json.ofFields]

namespace ManagedFields

/-- The record with its instant cut to the whole second. -/
def cut (e : ManagedFields) : ManagedFields := { e with time := e.time.map .cut }

theorem ofJson?_toJson (e : ManagedFields) : ofJson? e.toJson = some e.cut := by
  simp [ofJson?, toJson, cut]

theorem list?_ofList (es : List ManagedFields) :
    Json.list? ofJson? (Json.ofList toJson es) = some (es.map cut) := by
  simp only [Json.list?, Json.ofList]
  induction es with
  | nil => rfl
  | cons e es ih => simp [List.mapM_cons, ofJson?_toJson, ih]

@[simp] theorem readOptional_ofList (es : Option (List ManagedFields)) :
    Json.Record.readOptional (Json.list? ofJson?) (es.map (Json.ofList toJson)) =
      some (es.map (List.map cut)) :=
  Json.Record.readOptional_map_of_read list?_ofList (by simp [Json.ofList]) es

end ManagedFields

namespace Metadata

/-- The metadata with their instants cut to the whole second. -/
def cut (m : Metadata) : Metadata :=
  { m with
    creationTimestamp := m.creationTimestamp.map .cut
    deletionTimestamp := m.deletionTimestamp.map .cut
    managedFields := m.managedFields.map (List.map .cut) }

@[simp] theorem ofJson?_toJson (m : Metadata) : ofJson? m.toJson = some m.cut := by
  -- Field by field: a single `simp` would visit what follows each of them twice.
  rw [ofJson?, toJson, Json.Record.object?_ofFields, Option.bind_eq_bind, Option.bind_some]
  refine Option.bind_eq_some_iff.2 ⟨m.annotations, by simp, ?_⟩
  refine Option.bind_eq_some_iff.2 ⟨m.creationTimestamp.map .cut, by simp, ?_⟩
  refine Option.bind_eq_some_iff.2 ⟨m.deletionGracePeriodSeconds, by simp, ?_⟩
  refine Option.bind_eq_some_iff.2 ⟨m.deletionTimestamp.map .cut, by simp, ?_⟩
  refine Option.bind_eq_some_iff.2 ⟨m.finalizers, by simp, ?_⟩
  refine Option.bind_eq_some_iff.2 ⟨m.generateName, by simp, ?_⟩
  refine Option.bind_eq_some_iff.2 ⟨m.generation, by simp, ?_⟩
  refine Option.bind_eq_some_iff.2 ⟨m.labels, by simp, ?_⟩
  refine Option.bind_eq_some_iff.2 ⟨m.managedFields.map (List.map .cut), by simp, ?_⟩
  refine Option.bind_eq_some_iff.2 ⟨m.name, by simp, ?_⟩
  refine Option.bind_eq_some_iff.2 ⟨m.space, by simp, ?_⟩
  refine Option.bind_eq_some_iff.2 ⟨m.ownerReferences, by simp, ?_⟩
  refine Option.bind_eq_some_iff.2 ⟨m.resourceVersion, by simp, ?_⟩
  refine Option.bind_eq_some_iff.2 ⟨m.selfLink, by simp, ?_⟩
  exact Option.bind_eq_some_iff.2 ⟨m.uid, by simp, rfl⟩

end Metadata

/-- A resource of a kind on which nothing is reported is read back with its metadata cut. -/
theorem Resource.ofJson?_toJson_unreported {k : Kind}
    (hstatus : ∀ fields, k.status? fields = some none) (r : Resource k) :
    ofJson? k r.toJson = some { metadata := r.metadata.cut, spec := r.spec } := by
  simp [ofJson?, toJson, hstatus, Kind.spec?_specJson]

end ClusterAdmission
