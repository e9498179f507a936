/-!
# Maps sorted by key

A map is the list of its entries in strictly increasing key order, and carries the proof of that
order. Two maps with the same look-ups are therefore equal (`SortedMap.ext_get?`), and a write is
known by what it does to look-ups (`get?_insert_self`, `get?_insert_of_ne`, `get?_erase_self`,
`get?_erase_of_ne`).
-/

namespace ClusterAdmission

/-! ## Entry lists -/

namespace Entries

variable {κ β : Type} [Ord κ]

/-- Puts `v` under `k`: before the first larger key, in place of an equal one. -/
def insert (k : κ) (v : β) : List (κ × β) → List (κ × β)
  | [] => [(k, v)]
  | (k', v') :: rest =>
    match compare k k' with
    | .lt => (k, v) :: (k', v') :: rest
    | .eq => (k, v) :: rest
    | .gt => (k', v') :: insert k v rest

/-- The value of the first entry whose key is `k`. -/
def get? (k : κ) : List (κ × β) → Option β
  | [] => none
  | (k', v') :: rest => if compare k k' = .eq then some v' else get? k rest

/-- Drops every entry whose key is `k`. -/
def erase (k : κ) (es : List (κ × β)) : List (κ × β) :=
  es.filter fun e => compare k e.1 != .eq

/-- Keys strictly increase along the list. -/
def Sorted (es : List (κ × β)) : Prop :=
  es.Pairwise fun a b => compare a.1 b.1 = .lt

theorem mem_insert {k : κ} {v : β} {e : κ × β} {es : List (κ × β)}
    (h : e ∈ insert k v es) : e = (k, v) ∨ e ∈ es := by
  induction es with
  | nil => simpa [insert] using h
  | cons e' rest ih =>
    obtain ⟨k', v'⟩ := e'
    simp only [insert] at h
    split at h <;> simp only [List.mem_cons] at h ⊢
    · exact h
    · rcases h with h | h
      · exact .inl h
      · exact .inr (.inr h)
    · rcases h with h | h
      · exact .inr (.inl h)
      · exact (ih h).imp_right .inr

theorem get?_erase_self (k : κ) (es : List (κ × β)) : get? k (erase k es) = none := by
  induction es with
  | nil => rfl
  | cons e' rest ih =>
    simp only [erase] at ih
    by_cases h : compare k e'.1 = .eq
    · simp [erase, h, ih]
    · simp [erase, get?, h, ih]

variable [Std.LawfulEqOrd κ]

theorem get?_insert_self (k : κ) (v : β) (es : List (κ × β)) : get? k (insert k v es) = some v := by
  induction es with
  | nil => simp [insert, get?]
  | cons e' rest ih =>
    obtain ⟨k', v'⟩ := e'
    simp only [insert]
    split
    · simp [get?]
    · simp [get?]
    · next hgt => simp [get?, hgt, ih]

theorem get?_insert_of_ne {k j : κ} (v : β) (es : List (κ × β)) (h : j ≠ k) :
    get? j (insert k v es) = get? j es := by
  induction es with
  | nil => simp [insert, get?, h]
  | cons e' rest ih =>
    obtain ⟨k', v'⟩ := e'
    simp only [insert]
    split
    · simp [get?, h]
    · next heq =>
      rw [Std.LawfulEqOrd.compare_eq_iff_eq] at heq
      subst heq
      simp [get?, h]
    · simp [get?, ih]

theorem get?_erase_of_ne {k j : κ} (es : List (κ × β)) (h : j ≠ k) :
    get? j (erase k es) = get? j es := by
  induction es with
  | nil => rfl
  | cons e' rest ih =>
    simp only [erase] at ih
    by_cases hk : compare k e'.1 = .eq
    · have hkey := Std.LawfulEqOrd.compare_eq_iff_eq.1 hk
      have hj : compare j e'.1 ≠ .eq := by
        rw [← hkey]
        simpa using h
      simp [erase, get?, hk, hj, ih]
    · simp [erase, get?, hk, ih]

theorem mem_of_get? {k : κ} {v : β} {es : List (κ × β)} (h : get? k es = some v) :
    (k, v) ∈ es := by
  induction es with
  | nil => simp [get?] at h
  | cons e' rest ih =>
    obtain ⟨k', v'⟩ := e'
    simp only [get?] at h
    split at h
    · next heq =>
      rw [Std.LawfulEqOrd.compare_eq_iff_eq] at heq
      subst heq
      cases h
      exact List.mem_cons_self
    · exact List.mem_cons_of_mem _ (ih h)

theorem get?_of_mem {k : κ} {v : β} {es : List (κ × β)} (hs : Sorted es) (h : (k, v) ∈ es) :
    get? k es = some v := by
  induction es with
  | nil => simp at h
  | cons e' rest ih =>
    obtain ⟨k', v'⟩ := e'
    obtain ⟨hall, hrest⟩ := List.pairwise_cons.1 hs
    rcases List.mem_cons.1 h with heq | hmem
    · cases heq
      simp [get?]
    · have hlt := hall _ hmem
      have hne : compare k k' ≠ .eq := by
        intro heq
        rw [Std.LawfulEqOrd.compare_eq_iff_eq] at heq
        subst heq
        simp at hlt
      simp [get?, hne, ih hrest hmem]

variable [Std.TransOrd κ]

theorem sorted_insert {k : κ} {v : β} {es : List (κ × β)} (h : Sorted es) :
    Sorted (insert k v es) := by
  induction es with
  | nil => simp [insert, Sorted]
  | cons e' rest ih =>
    obtain ⟨k', v'⟩ := e'
    obtain ⟨hall, hrest⟩ := List.pairwise_cons.1 h
    simp only [insert]
    split
    · next hlt =>
      refine List.pairwise_cons.2 ⟨?_, h⟩
      intro e he
      rcases List.mem_cons.1 he with rfl | he
      · exact hlt
      · exact Std.TransCmp.lt_trans hlt (hall e he)
    · next heq =>
      rw [Std.LawfulEqOrd.compare_eq_iff_eq] at heq
      subst heq
      exact List.pairwise_cons.2 ⟨hall, hrest⟩
    · next hgt =>
      refine List.pairwise_cons.2 ⟨?_, ih hrest⟩
      intro e he
      rcases mem_insert he with rfl | he
      · exact Std.OrientedCmp.lt_of_gt hgt
      · exact hall e he

end Entries

/-! ## Maps -/

/-- A finite map whose entries are listed by increasing key. -/
structure SortedMap (κ β : Type) [Ord κ] where
  /-- The entries, one for each key. -/
  entries : List (κ × β)
  /-- Keys increase strictly. -/
  sorted : Entries.Sorted entries

namespace SortedMap

variable {κ β : Type} [Ord κ]

instance [DecidableEq κ] [DecidableEq β] : DecidableEq (SortedMap κ β) := fun a b =>
  if h : a.entries = b.entries then
    .isTrue (by cases a; cases b; cases h; rfl)
  else
    .isFalse (by rintro rfl; exact h rfl)

/-- The map without entries. -/
def empty : SortedMap κ β := ⟨[], .nil⟩

instance : Inhabited (SortedMap κ β) := ⟨empty⟩

/-- The value under `k`. -/
def get? (m : SortedMap κ β) (k : κ) : Option β := Entries.get? k m.entries

/-- Whether there is a value under `k`. -/
def contains (m : SortedMap κ β) (k : κ) : Bool := (m.get? k).isSome

/-- Whether the map has no entries. -/
def isEmpty (m : SortedMap κ β) : Bool := m.entries.isEmpty

/-- The keys in increasing order. -/
def keys (m : SortedMap κ β) : List κ := m.entries.map (·.1)

@[simp] theorem get?_empty (k : κ) : (empty : SortedMap κ β).get? k = none := rfl

/-- Removes the value under `k`. -/
def erase (m : SortedMap κ β) (k : κ) : SortedMap κ β where
  entries := Entries.erase k m.entries
  sorted := List.Pairwise.filter _ m.sorted

variable [Std.TransOrd κ] [Std.LawfulEqOrd κ]

/-- Puts `v` under `k`, in place of an older value. -/
def insert (m : SortedMap κ β) (k : κ) (v : β) : SortedMap κ β where
  entries := Entries.insert k v m.entries
  sorted := Entries.sorted_insert m.sorted

/-- The map of a list of pairs; of two pairs with one key the later counts. -/
def ofList (es : List (κ × β)) : SortedMap κ β :=
  es.foldl (fun m e => m.insert e.1 e.2) empty

/-- The distinct elements of a list in increasing order. -/
def distinct (xs : List κ) : List κ := (ofList (xs.map fun x => (x, ()))).keys

@[simp] theorem get?_insert_self (m : SortedMap κ β) (k : κ) (v : β) :
    (m.insert k v).get? k = some v :=
  Entries.get?_insert_self k v m.entries

theorem get?_insert_of_ne (m : SortedMap κ β) {k j : κ} (v : β) (h : j ≠ k) :
    (m.insert k v).get? j = m.get? j :=
  Entries.get?_insert_of_ne v m.entries h

omit [Std.TransOrd κ] [Std.LawfulEqOrd κ] in
@[simp] theorem get?_erase_self (m : SortedMap κ β) (k : κ) : (m.erase k).get? k = none :=
  Entries.get?_erase_self k m.entries

omit [Std.TransOrd κ] in
theorem get?_erase_of_ne (m : SortedMap κ β) {k j : κ} (h : j ≠ k) :
    (m.erase k).get? j = m.get? j :=
  Entries.get?_erase_of_ne m.entries h

omit [Std.TransOrd κ] in
theorem mem_entries_iff {m : SortedMap κ β} {k : κ} {v : β} :
    (k, v) ∈ m.entries ↔ m.get? k = some v :=
  ⟨Entries.get?_of_mem m.sorted, Entries.mem_of_get?⟩

/-- Maps with the same look-ups are equal. -/
theorem ext_get? {m n : SortedMap κ β} (h : ∀ k, m.get? k = n.get? k) : m = n := by
  obtain ⟨es, hes⟩ := m
  obtain ⟨fs, hfs⟩ := n
  suffices hlist : es = fs by
    subst hlist
    rfl
  have hmem : ∀ e, e ∈ es ↔ e ∈ fs := by
    rintro ⟨k, v⟩
    rw [mem_entries_iff (m := ⟨es, hes⟩), mem_entries_iff (m := ⟨fs, hfs⟩), h k]
  clear h
  induction es generalizing fs with
  | nil =>
    cases fs with
    | nil => rfl
    | cons f rest => exact absurd ((hmem f).2 List.mem_cons_self) List.not_mem_nil
  | cons e rest ih =>
    cases fs with
    | nil => exact absurd ((hmem e).1 List.mem_cons_self) List.not_mem_nil
    | cons f rest' =>
      obtain ⟨he, hrest⟩ := List.pairwise_cons.1 hes
      obtain ⟨hf, hrest'⟩ := List.pairwise_cons.1 hfs
      have hirr : ∀ {a b : κ}, compare a b = .lt → compare b a = .lt → False := by
        intro a b hab hba
        have := Std.TransCmp.lt_trans hab hba
        simp at this
      have hef : e = f := by
        rcases List.mem_cons.1 ((hmem e).1 List.mem_cons_self) with heq | hin
        · exact heq
        · rcases List.mem_cons.1 ((hmem f).2 List.mem_cons_self) with heq | hin'
          · exact heq.symm
          · exact (hirr (he f hin') (hf e hin)).elim
      subst hef
      have hself : ∀ {l : List (κ × β)}, (∀ x ∈ l, compare e.1 x.1 = .lt) → e ∉ l := by
        intro l hl hin
        have := hl e hin
        simp at this
      congr 1
      refine ih hrest rest' hrest' fun x => ?_
      have hx := hmem x
      simp only [List.mem_cons] at hx
      constructor
      · intro hin
        rcases hx.1 (.inr hin) with rfl | hin'
        · exact absurd hin (hself he)
        · exact hin'
      · intro hin
        rcases hx.2 (.inr hin) with rfl | hin'
        · exact absurd hin (hself hf)
        · exact hin'

/-- A look-up in the map of a list finds the last pair with that key. -/
theorem get?_foldl_insert (es : List (κ × β)) (m : SortedMap κ β) (k : κ) :
    (es.foldl (fun m e => m.insert e.1 e.2) m).get? k =
      (Entries.get? k es.reverse).or (m.get? k) := by
  induction es generalizing m with
  | nil => simp [Entries.get?]
  | cons e rest ih =>
    have happ : ∀ l : List (κ × β), Entries.get? k (l ++ [e]) =
        (Entries.get? k l).or (if compare k e.1 = .eq then some e.2 else none) := by
      intro l
      induction l with
      | nil => rfl
      | cons a l ihl =>
        simp only [List.cons_append, Entries.get?]
        split
        · rfl
        · exact ihl
    rw [List.foldl_cons, ih, List.reverse_cons, happ]
    cases Entries.get? k rest.reverse with
    | some v => simp
    | none =>
      by_cases hk : k = e.1
      · subst hk
        simp
      · simp [get?_insert_of_ne m e.2 hk, hk]

/-- Listing the entries and building the map again changes nothing. -/
@[simp] theorem ofList_entries (m : SortedMap κ β) : ofList m.entries = m := by
  refine ext_get? fun k => ?_
  rw [ofList, get?_foldl_insert]
  simp only [get?_empty, Option.or_none]
  obtain ⟨es, hes⟩ := m
  simp only [get?]
  cases hrev : Entries.get? k es.reverse with
  | some v =>
    have := Entries.mem_of_get? hrev
    rw [List.mem_reverse] at this
    exact (Entries.get?_of_mem hes this).symm
  | none =>
    cases hget : Entries.get? k es with
    | none => rfl
    | some v =>
      have hin : (k, v) ∈ es.reverse := by
        rw [List.mem_reverse]
        exact Entries.mem_of_get? hget
      have hnone : ∀ l : List (κ × β), Entries.get? k l = none → ∀ w, (k, w) ∉ l := by
        intro l
        induction l with
        | nil => simp
        | cons a l ih =>
          intro hl w hw
          simp only [Entries.get?] at hl
          split at hl
          · cases hl
          · next hne =>
            rcases List.mem_cons.1 hw with heq | hw
            · subst heq
              simp at hne
            · exact ih hl w hw
      exact absurd hin (hnone _ hrev v)

theorem mem_distinct {xs : List κ} {x : κ} : x ∈ distinct xs ↔ x ∈ xs := by
  have hentry : ∀ k, k ∈ distinct xs ↔ (ofList (xs.map fun x => (x, ()))).get? k = some () := by
    intro k
    simp only [distinct, keys, List.mem_map]
    constructor
    · rintro ⟨⟨k', v⟩, hmem, rfl⟩
      exact mem_entries_iff.1 hmem
    · intro h
      exact ⟨(k, ()), mem_entries_iff.2 h, rfl⟩
  rw [hentry, ofList, get?_foldl_insert]
  simp only [get?_empty, Option.or_none, ← List.map_reverse]
  rw [← List.mem_reverse]
  generalize xs.reverse = ys
  induction ys with
  | nil => simp [Entries.get?]
  | cons y ys ih =>
    simp only [List.map_cons, Entries.get?, Std.LawfulEqOrd.compare_eq_iff_eq, List.mem_cons]
    by_cases h : x = y
    · simp [h]
    · simp [h, ih]

end SortedMap

end ClusterAdmission
