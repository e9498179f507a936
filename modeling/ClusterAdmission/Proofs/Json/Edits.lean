import ClusterAdmission.Proofs.Json.Record
import Mathlib.Data.List.Forall2

/-!
# Edits of JSON values

An edit names a path of keys and what is to be found there. A value is another one under some edits
(`Edited`) if it has what they name, and is the same as the other one at every path that does not
lead to an edit or through one. Edits of an object are put together from those of its members, also
in an object that was built from a list of fields (`edited_ofFields`).
-/

namespace ClusterAdmission.Json

/-- A path of keys, and what is to be found there. -/
abbrev Edit := List String × Option Json

/-- What is found at a path of keys. -/
def at? : List String → Option Json → Option Json
  | [], j => j
  | key :: path, j => at? path (j.bind fun v => v.get? key)

/-- The second value is the first one under the edits. -/
structure Edited (edits : List Edit) (j j' : Option Json) : Prop where
  set : ∀ e ∈ edits, at? e.1 j' = e.2
  kept : ∀ path, (∀ e ∈ edits, ¬ e.1 <+: path ∧ ¬ path <+: e.1) → at? path j' = at? path j

namespace Edit

/-- The edits of the members of an object. -/
def within (members : List (String × List Edit)) : List Edit :=
  members.flatMap fun m => m.2.map fun e => (m.1 :: e.1, e.2)

/-- The edit of a field, if a value is supplied for it. -/
def supplied {α : Type} (encode : α → Option Json) (value : Option α) : List Edit :=
  (value.map fun a => ([], encode a)).toList

/-- The edits of the member under a key. -/
def under (key : String) (edits : List Edit) : List Edit :=
  edits.filterMap fun e =>
    match e.1 with
    | [] => none
    | k :: path => if key = k then some (path, e.2) else none

theorem mem_under {key : String} {edits : List Edit} {e : Edit} :
    e ∈ under key edits ↔ (key :: e.1, e.2) ∈ edits := by
  simp only [under, List.mem_filterMap]
  constructor
  · rintro ⟨⟨path, v⟩, hmem, heq⟩
    cases path with
    | nil => cases heq
    | cons k path =>
      obtain ⟨rfl, heq⟩ := Option.ite_none_right_eq_some.1 heq
      obtain rfl := Option.some.inj heq
      exact hmem
  · exact fun hmem => ⟨_, hmem, if_pos rfl⟩

theorem under_map_cons (key k : String) (edits : List Edit) :
    under key (edits.map fun e => (k :: e.1, e.2)) = if key = k then edits else [] := by
  rw [under, List.filterMap_map]
  by_cases h : key = k
  · simp [h]
  · simp [h]

@[simp] theorem under_within_nil (key : String) : under key (within []) = [] := rfl

@[simp] theorem under_within_cons (key k : String) (edits : List Edit)
    (members : List (String × List Edit)) :
    under key (within ((k, edits) :: members)) =
      (if key = k then edits else []) ++ under key (within members) := by
  have hmembers : within ((k, edits) :: members) =
      edits.map (fun e => (k :: e.1, e.2)) ++ within members := List.flatMap_cons
  rw [hmembers, under, List.filterMap_append, ← under, ← under, under_map_cons]

theorem under_within_eq_nil {key : String} {members : List (String × List Edit)}
    (h : key ∉ members.map (·.1)) : under key (within members) = [] := by
  induction members with
  | nil => rfl
  | cons m members ih =>
    obtain ⟨hne, hrest⟩ := List.ne_and_not_mem_of_not_mem_cons h
    rw [under_within_cons, if_neg hne, ih hrest, List.nil_append]

theorem path_ne_nil_of_mem_within {members : List (String × List Edit)} {e : Edit}
    (h : e ∈ within members) : e.1 ≠ [] := by
  obtain ⟨m, -, hm⟩ := List.mem_flatMap.1 h
  obtain ⟨e', -, rfl⟩ := List.mem_map.1 hm
  exact List.cons_ne_nil _ _

theorem within_eq_nil {members : List (String × List Edit)}
    (h : ∀ key, under key (within members) = []) : within members = [] := by
  refine List.eq_nil_iff_forall_not_mem.2 fun e he => ?_
  cases hpath : e.1 with
  | nil => exact path_ne_nil_of_mem_within he hpath
  | cons key path =>
    have hmem : (path, e.2) ∈ under key (within members) := mem_under.2 (hpath ▸ he)
    rw [h key] at hmem
    cases hmem

end Edit

open Edit (within supplied under)

variable {α : Type} {edits : List Edit} {j j' : Option Json}

/-! ## Single values -/

@[simp] theorem edited_nil : Edited [] j j' ↔ j' = j := by
  constructor
  · exact fun h => h.kept [] nofun
  · rintro rfl
    exact ⟨nofun, fun _ _ => rfl⟩

/-- A field that is always there, or that is left out for some of its values. -/
theorem edited_supplied (encode : α → Option Json) (value : Option α) (old : α) :
    Edited (supplied encode value) (encode old) (encode (value.getD old)) := by
  cases value with
  | none => exact edited_nil.2 rfl
  | some a =>
    refine ⟨fun e he => ?_, fun path hpath => ?_⟩
    · obtain rfl := List.mem_singleton.1 he
      rfl
    · exact absurd List.nil_prefix (hpath _ (List.mem_singleton.2 rfl)).1

/-- A field that keeps its value, or stays left out, if none is supplied. -/
theorem edited_supplied_or (encode : α → Json) (value : Option α) (old : Option Json) :
    Edited (supplied (fun a => some (encode a)) value) old ((value.map encode).or old) := by
  cases value with
  | none => exact edited_nil.2 rfl
  | some a =>
    refine ⟨fun e he => ?_, fun path hpath => ?_⟩
    · obtain rfl := List.mem_singleton.1 he
      rfl
    · exact absurd List.nil_prefix (hpath _ (List.mem_singleton.2 rfl)).1

/-! ## Objects -/

/-- Edits below the root are those of the members. -/
theorem edited_of_members (hroot : ∀ e ∈ edits, e.1 ≠ []) (hnone : edits = [] → j' = j)
    (h : ∀ key, Edited (under key edits) (j.bind fun v => v.get? key)
      (j'.bind fun v => v.get? key)) : Edited edits j j' where
  set := by
    rintro ⟨path, v⟩ he
    cases path with
    | nil => exact absurd rfl (hroot _ he)
    | cons key path => exact (h key).set (path, v) (Edit.mem_under.2 he)
  kept path hpath := by
    cases path with
    | nil =>
      cases edits with
      | nil => rw [hnone rfl]
      | cons e edits => exact absurd List.nil_prefix (hpath e List.mem_cons_self).2
    | cons key path =>
      refine (h key).kept path fun e he => ?_
      obtain ⟨hto, hthrough⟩ := hpath _ (Edit.mem_under.1 he)
      exact ⟨fun hprefix => hto ((List.prefix_cons_inj key).2 hprefix),
        fun hprefix => hthrough ((List.prefix_cons_inj key).2 hprefix)⟩

theorem get?_ofFields_eq_none {key : String} {fields : List (String × Option Json)}
    (h : key ∉ fields.map (·.1)) : (ofFields fields).get? key = none := by
  rw [get?_ofFields]
  induction fields with
  | nil => rfl
  | cons f fields ih =>
    obtain ⟨hne, hrest⟩ := List.ne_and_not_mem_of_not_mem_cons h
    rw [Record.get?_ofFields_cons, if_neg hne, Option.none_or]
    exact ih hrest

/-- One member of two objects with the same fields. -/
theorem edited_get?_ofFields {key : String} (below : String → List Edit)
    {fields fields' : List (String × Option Json)} (hnodup : (fields.map (·.1)).Nodup)
    (hknown : key ∉ fields.map (·.1) → below key = [])
    (h : List.Forall₂ (fun f f' => f'.1 = f.1 ∧ Edited (below f.1) f.2 f'.2) fields fields') :
    Edited (below key) ((ofFields fields).get? key) ((ofFields fields').get? key) := by
  induction h with
  | nil => rw [hknown List.not_mem_nil]; exact edited_nil.2 rfl
  | @cons f f' fields fields' hf hrest ih =>
    obtain ⟨k, v⟩ := f
    obtain ⟨k', v'⟩ := f'
    obtain ⟨rfl, hedited⟩ : k' = k ∧ Edited (below k) v v' := hf
    obtain ⟨hhead, htail⟩ := List.nodup_cons.1 hnodup
    have hkeys : fields'.map (·.1) = fields.map (·.1) := by
      clear ih hnodup hknown hhead htail
      induction hrest with
      | nil => rfl
      | cons hf _ ih => rw [List.map_cons, List.map_cons, hf.1, ih]
    rw [get?_ofFields, get?_ofFields, Record.get?_ofFields_cons, Record.get?_ofFields_cons,
      ← get?_ofFields, ← get?_ofFields]
    by_cases heq : key = k'
    · subst heq
      rw [get?_ofFields_eq_none hhead, get?_ofFields_eq_none (hkeys ▸ hhead)]
      simpa using hedited
    · rw [if_neg heq, if_neg heq, Option.none_or, Option.none_or]
      exact ih htail fun hrest => hknown (List.not_mem_cons_of_ne_of_not_mem heq hrest)

/-- Two objects with the same fields, each of which is edited as the object is. -/
theorem edited_ofFields {members : List (String × List Edit)}
    {fields fields' : List (String × Option Json)} (hnodup : (fields.map (·.1)).Nodup)
    (hknown : members.map (·.1) ⊆ fields.map (·.1))
    (h : List.Forall₂ (fun f f' => f'.1 = f.1 ∧ Edited (under f.1 (within members)) f.2 f'.2)
      fields fields') :
    Edited (within members) (some (ofFields fields)) (some (ofFields fields')) := by
  refine edited_of_members (fun _ => Edit.path_ne_nil_of_mem_within) (fun hnone => ?_)
    fun key => edited_get?_ofFields (fun k => under k (within members)) hnodup
      (fun hkey => Edit.under_within_eq_nil fun hmember => hkey (hknown hmember)) h
  rw [hnone] at h
  have hsame : List.Forall₂ Eq fields' fields :=
    (h.imp fun f f' hf => Prod.ext hf.1 (edited_nil.1 hf.2)).flip
  rw [List.forall₂_eq_eq_eq] at hsame
  rw [hsame]

end ClusterAdmission.Json
