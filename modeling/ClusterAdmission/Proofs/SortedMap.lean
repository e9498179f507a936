import ClusterAdmission.SortedMap
import Mathlib.Algebra.GroupWithZero.Nat
import Mathlib.Data.Option.Basic

/-!
# Entry lists as maps

Inserting sorted entries one after another overlays them (`Entries.get?_foldl_insert`), under keys
that do not depend on the values (`Entries.map_foldl_insert_congr`). Reading the values of sorted
entries one by one reads the map key by key (`SortedMap.ofList_readValues_eq_some`), and erasing
what was inserted at a free key gives back the map (`SortedMap.erase_insert`). A write changes the
sum of the values by what it changes at its key (`SortedMap.total_insert`).
-/

namespace ClusterAdmission

variable {κ β γ : Type} [Ord κ]

namespace Entries

/-! ## Overlays -/

theorem get?_eq_none_of_lt {k : κ} {es : List (κ × β)} (h : ∀ e ∈ es, compare k e.1 = .lt) :
    get? k es = none := by
  induction es with
  | nil => rfl
  | cons e rest ih =>
    obtain ⟨hfirst, hrest⟩ := List.forall_mem_cons.1 h
    simp [get?, hfirst, ih hrest]

theorem get?_map (k : κ) (f : β → γ) (es : List (κ × β)) :
    get? k (es.map fun e => (e.1, f e.2)) = (get? k es).map f := by
  induction es with
  | nil => rfl
  | cons e rest ih =>
    simp only [List.map_cons, get?, ih]
    split <;> rfl

theorem eq_nil_of_get? [Std.LawfulEqOrd κ] {es : List (κ × β)} (h : ∀ k, get? k es = none) :
    es = [] := by
  cases es with
  | nil => rfl
  | cons e rest =>
    have hfirst := h e.1
    simp [get?] at hfirst

/-- Erasing what was inserted leaves what is left without it. -/
theorem erase_insert [Std.LawfulEqOrd κ] (k : κ) (v : β) (es : List (κ × β)) :
    erase k (insert k v es) = erase k es := by
  induction es with
  | nil => simp [insert, erase]
  | cons e rest ih =>
    rw [insert]
    split
    · simp [erase]
    · next heq => simp [erase, heq]
    · next hgt =>
      simp only [erase] at ih
      simp [erase, hgt, ih]

theorem erase_eq_self {k : κ} {es : List (κ × β)} (h : get? k es = none) : erase k es = es := by
  induction es with
  | nil => rfl
  | cons e rest ih =>
    rw [get?] at h
    split at h
    · cases h
    · next hne =>
      have hrest := ih h
      simp only [erase] at hrest
      simp [erase, hne, hrest]

theorem map_insert (f : β → γ) (k : κ) (v : β) (es : List (κ × β)) :
    (insert k v es).map (fun e => (e.1, f e.2)) =
      insert k (f v) (es.map fun e => (e.1, f e.2)) := by
  induction es with
  | nil => rfl
  | cons e rest ih =>
    simp only [insert, List.map_cons]
    split <;> simp [ih]

/-- What cannot be told apart of values that are inserted depends on their keys only. -/
theorem map_foldl_insert_congr {α : Type} {f : α → β} {g : β → γ}
    (hfg : ∀ a a', g (f a) = g (f a')) {es es' : List (κ × α)}
    (hkeys : es.map (·.1) = es'.map (·.1)) {d d' : List (κ × β)}
    (hd : d.map (fun e => (e.1, g e.2)) = d'.map fun e => (e.1, g e.2)) :
    (es.foldl (fun d e => insert e.1 (f e.2) d) d).map (fun e => (e.1, g e.2)) =
      (es'.foldl (fun d e => insert e.1 (f e.2) d) d').map fun e => (e.1, g e.2) := by
  induction es generalizing es' d d' with
  | nil =>
    obtain rfl : es' = [] := List.map_eq_nil_iff.1 hkeys.symm
    exact hd
  | cons e rest ih =>
    obtain ⟨e', rest', rfl, hkey, hrest⟩ := List.map_eq_cons_iff.1 hkeys.symm
    refine ih hrest.symm ?_
    rw [map_insert, map_insert, hd, hkey, hfg e.2 e'.2]

theorem sorted_map {f : β → γ} {es : List (κ × β)} (h : Sorted es) :
    Sorted (es.map fun e => (e.1, f e.2)) :=
  List.pairwise_map.2 h

variable [Std.TransOrd κ] [Std.LawfulEqOrd κ]

theorem sorted_foldl_insert {f : β → γ} {es : List (κ × β)} {d : List (κ × γ)} (h : Sorted d) :
    Sorted (es.foldl (fun d e => insert e.1 (f e.2) d) d) := by
  induction es generalizing d with
  | nil => exact h
  | cons e rest ih => exact ih (sorted_insert h)

omit [Std.TransOrd κ] in
/-- Inserting sorted entries lays them over what is there. -/
theorem get?_foldl_insert {f : β → γ} {es : List (κ × β)} (hes : Sorted es) (d : List (κ × γ))
    (k : κ) : get? k (es.foldl (fun d e => insert e.1 (f e.2) d) d) =
      ((get? k es).map f).or (get? k d) := by
  induction es generalizing d with
  | nil => rfl
  | cons e rest ih =>
    obtain ⟨hfirst, hrest⟩ := List.pairwise_cons.1 hes
    rw [List.foldl_cons, ih hrest]
    by_cases hk : k = e.1
    · -- The later entries have larger keys, so they do not overwrite the first.
      rw [hk, get?_eq_none_of_lt hfirst, get?_insert_self]
      simp [get?]
    · rw [get?_insert_of_ne _ _ hk]
      simp [get?, hk]

/-! ## Sums -/

omit [Std.LawfulEqOrd κ] in
/-- A new value replaces the old one in a sum. -/
theorem sum_insert (f : β → Nat) (k : κ) (v : β) {es : List (κ × β)} (hes : Sorted es) :
    ((insert k v es).map fun e => f e.2).sum + ((get? k es).map f).getD 0 =
      (es.map fun e => f e.2).sum + f v := by
  induction es with
  | nil => simp [insert, get?]
  | cons e rest ih =>
    obtain ⟨hfirst, hrest⟩ := List.pairwise_cons.1 hes
    rw [insert]
    split
    · next hlt =>
      have hnone : get? k rest = none :=
        get?_eq_none_of_lt fun e' he' => Std.TransCmp.lt_trans hlt (hfirst e' he')
      simp [get?, hlt, hnone]
      omega
    · next heq =>
      simp [get?, heq]
      omega
    · next hgt =>
      have hsum := ih hrest
      simp [get?, hgt]
      omega

end Entries

namespace SortedMap

/-! ## Keys -/

section Keys

variable [Std.TransOrd κ] [Std.LawfulEqOrd κ] {m : SortedMap κ β} {k : κ}

omit [Std.TransOrd κ] [Std.LawfulEqOrd κ] in
theorem contains_iff : m.contains k = true ↔ ∃ v, m.get? k = some v := Option.isSome_iff_exists

@[simp] theorem contains_insert_self (v : β) : (m.insert k v).contains k = true := by
  rw [contains, get?_insert_self]
  rfl

omit [Std.TransOrd κ] [Std.LawfulEqOrd κ] in
@[simp] theorem contains_erase_self : (m.erase k).contains k = false := by
  rw [contains, get?_erase_self]
  rfl

theorem entries_ofList (es : List (κ × β)) :
    (ofList es).entries = es.foldl (fun d e => Entries.insert e.1 e.2 d) [] := by
  have hfold (m : SortedMap κ β) : (es.foldl (fun m e => m.insert e.1 e.2) m).entries =
      es.foldl (fun d e => Entries.insert e.1 e.2 d) m.entries := by
    induction es generalizing m with
    | nil => rfl
    | cons e rest ih => exact ih (m.insert e.1 e.2)
  exact hfold empty

/-- The keys of a map do not depend on the values. -/
theorem keys_ofList_congr {es es' : List (κ × β)} (h : es.map (·.1) = es'.map (·.1)) :
    (ofList es).keys = (ofList es').keys := by
  have hshape := Entries.map_foldl_insert_congr (f := fun v : β => v) (g := fun _ => ())
    (fun _ _ => rfl) h (d := []) rfl
  rw [← entries_ofList, ← entries_ofList] at hshape
  simpa [keys, Function.comp_def] using congrArg (List.map Prod.fst) hshape

omit [Std.TransOrd κ] in
theorem mem_keys : k ∈ m.keys ↔ ∃ v, m.get? k = some v := by
  simp only [keys, List.mem_map]
  constructor
  · rintro ⟨⟨_, v⟩, hmem, rfl⟩
    exact ⟨v, mem_entries_iff.1 hmem⟩
  · rintro ⟨v, hv⟩
    exact ⟨(k, v), mem_entries_iff.2 hv, rfl⟩

/-- Which elements are distinct depends on the members alone. -/
theorem distinct_congr {xs ys : List κ} (h : ∀ x, x ∈ xs ↔ x ∈ ys) : distinct xs = distinct ys := by
  have hget (zs : List κ) (x : κ) :
      (ofList (zs.map fun z => (z, ()))).get? x = some () ↔ x ∈ zs := by
    rw [← mem_distinct, distinct, mem_keys]
    constructor
    · exact fun hx => ⟨(), hx⟩
    · rintro ⟨_, hx⟩
      exact hx
  have hmaps : ofList (xs.map fun x => (x, ())) = ofList (ys.map fun x => (x, ())) :=
    ext_get? fun x => Option.ext fun u => by
      cases u
      rw [hget, hget, h]
  rw [distinct, distinct, hmaps]

end Keys

/-! ## Sums -/

/-- The sum over all values. -/
def total (f : β → Nat) (m : SortedMap κ β) : Nat := (m.entries.map fun e => f e.2).sum

theorem total_insert [Std.TransOrd κ] [Std.LawfulEqOrd κ] (f : β → Nat) (m : SortedMap κ β) (k : κ)
    (v : β) : (m.insert k v).total f + ((m.get? k).map f).getD 0 = m.total f + f v :=
  Entries.sum_insert f k v m.sorted

/-! ## Erasing -/

section Erasing

variable [Std.TransOrd κ] [Std.LawfulEqOrd κ] {m : SortedMap κ β} {k : κ}

theorem erase_of_get?_eq_none (h : m.get? k = none) : m.erase k = m := by
  refine ext_get? fun j => ?_
  by_cases hj : j = k
  · rw [hj, get?_erase_self, h]
  · exact get?_erase_of_ne m hj

/-- Erasing what was inserted at a free key gives back the map. -/
theorem erase_insert (h : m.get? k = none) (v : β) : (m.insert k v).erase k = m := by
  refine ext_get? fun j => ?_
  by_cases hj : j = k
  · rw [hj, get?_erase_self, h]
  · rw [get?_erase_of_ne _ hj, get?_insert_of_ne m v hj]

end Erasing

/-! ## Filtering -/

/-- Maps that agree on some keys have the same entries there. -/
theorem filter_entries_congr [Std.TransOrd κ] [Std.LawfulEqOrd κ] {m n : SortedMap κ β}
    {keep : κ → Bool} (h : ∀ k, keep k → m.get? k = n.get? k) :
    m.entries.filter (fun e => keep e.1) = n.entries.filter (fun e => keep e.1) := by
  let kept (l : SortedMap κ β) : SortedMap κ β :=
    { entries := l.entries.filter fun e => keep e.1, sorted := l.sorted.filter _ }
  have hget (l : SortedMap κ β) (k : κ) (v : β) :
      (kept l).get? k = some v ↔ l.get? k = some v ∧ keep k := by
    rw [← mem_entries_iff, ← mem_entries_iff]
    exact List.mem_filter
  have hsame : kept m = kept n := by
    refine ext_get? fun k => Option.ext fun v => ?_
    rw [hget, hget]
    exact and_congr_left fun hk => by rw [h k hk]
  exact congrArg SortedMap.entries hsame

/-! ## Overlays -/

section Overlays

variable [Std.TransOrd κ] [Std.LawfulEqOrd κ]

/-- The values of `top` where it has any, and those of `base` elsewhere. -/
def overlay (top base : SortedMap κ β) : SortedMap κ β where
  entries := top.entries.foldl (fun d e => Entries.insert e.1 e.2 d) base.entries
  sorted := Entries.sorted_foldl_insert (f := fun v => v) base.sorted

theorem get?_overlay (top base : SortedMap κ β) (k : κ) :
    (top.overlay base).get? k = (top.get? k).or (base.get? k) := by
  have hget := Entries.get?_foldl_insert (f := fun v => v) top.sorted base.entries k
  rw [Option.map_id'] at hget
  exact hget

end Overlays

/-! ## Reading values -/

/-- Reads the values of entries, all of which must be readable. -/
def readValues (f : β → Option γ) (es : List (κ × β)) : Option (List (κ × γ)) :=
  es.mapM fun e => (f e.2).map fun v => (e.1, v)

omit [Ord κ] in
theorem readValues_cons_eq_some {f : β → Option γ} {e : κ × β} {es : List (κ × β)}
    {fs : List (κ × γ)} :
    readValues f (e :: es) = some fs ↔
      ∃ v, f e.2 = some v ∧ ∃ rest, readValues f es = some rest ∧ fs = (e.1, v) :: rest := by
  simp only [readValues, List.mapM_cons, Option.pure_def, Option.bind_eq_bind,
    Option.bind_eq_some_iff, Option.map_eq_some_iff, Option.some.injEq]
  constructor
  · rintro ⟨_, ⟨v, hv, rfl⟩, rest, hrest, rfl⟩
    exact ⟨v, hv, rest, hrest, rfl⟩
  · rintro ⟨v, hv, rest, hrest, rfl⟩
    exact ⟨_, ⟨v, hv, rfl⟩, rest, hrest, rfl⟩

/-- The values that are read stand under the keys of those that they are read from. -/
theorem readValues_eq_some {f : β → Option γ} {es : List (κ × β)} {fs : List (κ × γ)}
    (h : readValues f es = some fs) :
    fs.map (·.1) = es.map (·.1) ∧
      ∀ k, (Entries.get? k es).map f = (Entries.get? k fs).map some := by
  induction es generalizing fs with
  | nil =>
    obtain rfl : [] = fs := Option.some.inj h
    exact ⟨rfl, fun k => rfl⟩
  | cons e rest ih =>
    obtain ⟨v, hv, fs', hfs, rfl⟩ := readValues_cons_eq_some.1 h
    obtain ⟨hkeys, hvalues⟩ := ih hfs
    refine ⟨by simp [hkeys], fun k => ?_⟩
    simp only [Entries.get?]
    split
    · simp [hv]
    · exact hvalues k

omit [Ord κ] in
theorem isSome_readValues (f : β → Option γ) (es : List (κ × β)) :
    (readValues f es).isSome = es.all fun e => (f e.2).isSome := by
  induction es with
  | nil => rfl
  | cons e rest ih =>
    rw [List.all_cons, ← ih, readValues, List.mapM_cons, ← readValues]
    cases f e.2 <;> cases readValues f rest <;> rfl

omit [Ord κ] in
theorem exists_readValues {f : β → Option γ} {es : List (κ × β)} (h : ∀ e ∈ es, (f e.2).isSome) :
    ∃ fs, readValues f es = some fs :=
  Option.isSome_iff_exists.1 ((isSome_readValues f es).trans (List.all_eq_true.2 h))

variable [Std.TransOrd κ] [Std.LawfulEqOrd κ]

/-- Reading the values of sorted entries gives the map whose values are those that are read. -/
theorem ofList_readValues_eq_some {f : β → Option γ} {es : List (κ × β)} {m : SortedMap κ γ}
    (hes : Entries.Sorted es) :
    (readValues f es).map ofList = some m ↔
      ∀ k, (Entries.get? k es).map f = (m.get? k).map some := by
  have hread {fs : List (κ × γ)} (hfs : readValues f es = some fs) (k : κ) :
      (Entries.get? k es).map f = ((ofList fs).get? k).map some := by
    obtain ⟨hkeys, hvalues⟩ := readValues_eq_some hfs
    have hsorted : Entries.Sorted fs := by
      have hes' : (es.map (·.1)).Pairwise fun a b => compare a b = .lt := List.pairwise_map.2 hes
      rw [← hkeys] at hes'
      exact List.pairwise_map.1 hes'
    have hlist : ofList fs = ⟨fs, hsorted⟩ := ofList_entries ⟨fs, hsorted⟩
    rw [hlist]
    exact hvalues k
  constructor
  · intro h
    obtain ⟨fs, hfs, rfl⟩ := Option.map_eq_some_iff.1 h
    exact hread hfs
  · intro h
    have hall : ∀ e ∈ es, (f e.2).isSome := by
      intro e he
      have hk := h e.1
      rw [Entries.get?_of_mem hes he] at hk
      cases hm : m.get? e.1 with
      | none => simp [hm] at hk
      | some v =>
        rw [hm] at hk
        rw [Option.some.inj hk]
        rfl
    obtain ⟨fs, hfs⟩ := exists_readValues hall
    rw [hfs, Option.map_some]
    refine congrArg some (ext_get? fun k => ?_)
    exact Option.map_injective (Option.some_injective γ) ((hread hfs k).symm.trans (h k))

end SortedMap

end ClusterAdmission
