import ClusterAdmission.Version

/-!
# Precedence is an order

Comparing versions by precedence is a total preorder, since each of its parts is: the core numbers,
and the pre-release, whose identifiers are compared like the letters of words
(`Version.identifierOrder_eq`). So a chain of versions none of which is below the one before it
never comes down (`Version.not_below_trans`). Which versions are below which is as SemVer 2.0.0 says
(`Version.below_iff`).
-/

namespace ClusterAdmission

namespace PreIdentifier

instance : Std.OrientedCmp order where
  eq_swap {i j} := by
    cases i with
    | number m =>
      cases j with
      | number n => exact Std.OrientedOrd.eq_swap
      | word ds => rfl
    | word cs =>
      cases j with
      | number n => rfl
      | word ds => exact Std.OrientedOrd.eq_swap

instance : Std.TransCmp order where
  isLE_trans {i j k} hij hjk := by
    cases i with
    | number m =>
      cases k with
      | number o =>
        cases j with
        | number n => exact Std.TransOrd.isLE_trans (a := m) (b := n) (c := o) hij hjk
        | word ds => cases hjk
      | word es => rfl
    | word cs =>
      cases j with
      | number n => cases hij
      | word ds =>
        cases k with
        | number o => cases hjk
        | word es =>
          exact Std.TransOrd.isLE_trans (b := String.ofList ds) hij hjk

/-- An identifier is below another: a number below a greater one and below every word, a word below
another if its first character that differs is below. -/
inductive Below : PreIdentifier → PreIdentifier → Prop
  | numbers {m n : Nat} : m < n → Below (number m) (number n)
  | numberWord {m : Nat} {ds : List Char} : Below (number m) (word ds)
  | words {cs ds : List Char} : cs < ds → Below (word cs) (word ds)

theorem compare_ofList_eq_lt {cs ds : List Char} :
    compare (String.ofList cs) (String.ofList ds) = .lt ↔ cs < ds := by
  change compareOfLessAndEq _ _ = _ ↔ _
  rw [compareOfLessAndEq_eq_lt, String.lt_iff, String.toList_ofList, String.toList_ofList]

theorem order_eq_lt {i j : PreIdentifier} : i.order j = .lt ↔ i.Below j := by
  constructor
  · intro h
    cases i with
    | number m =>
      cases j with
      | number n => exact .numbers (Std.compare_eq_lt.1 h)
      | word ds => exact .numberWord
    | word cs =>
      cases j with
      | number n => cases h
      | word ds => exact .words (compare_ofList_eq_lt.1 h)
  · rintro (h | _ | h)
    · exact Std.compare_eq_lt.2 h
    · rfl
    · exact compare_ofList_eq_lt.2 h

theorem order_eq_eq {i j : PreIdentifier} : i.order j = .eq ↔ i = j := by
  cases i with
  | number m =>
    cases j with
    | number n => simp [order]
    | word ds => simp [order]
  | word cs =>
    cases j with
    | number n => simp [order]
    | word ds => simp [order, String.ofList_inj]

end PreIdentifier

namespace Version

/-! ## Pre-releases -/

theorem identifierOrder_eq : identifierOrder = List.compareLex PreIdentifier.order := by
  funext is js
  induction is generalizing js with
  | nil =>
    cases js with
    | nil => exact List.compareLex_nil_nil.symm
    | cons j js => exact List.compareLex_nil_cons.symm
  | cons i is ih =>
    cases js with
    | nil => exact List.compareLex_cons_nil.symm
    | cons j js => rw [identifierOrder, List.compareLex_cons_cons, ih]

instance : Std.TransCmp identifierOrder := by
  rw [identifierOrder_eq]
  infer_instance

instance : Std.OrientedCmp preOrder where
  eq_swap {is js} := by
    cases is with
    | nil => cases js <;> rfl
    | cons i is =>
      cases js with
      | nil => rfl
      | cons j js =>
        change identifierOrder (i :: is) (j :: js) = (identifierOrder (j :: js) (i :: is)).swap
        exact Std.OrientedCmp.eq_swap

instance : Std.TransCmp preOrder where
  isLE_trans {is js ks} hij hjk := by
    -- Having no pre-release is highest, so what is above none has none itself.
    cases ks with
    | nil => cases is <;> rfl
    | cons k ks =>
      cases js with
      | nil => cases hjk
      | cons j js =>
        cases is with
        | nil => cases hij
        | cons i is =>
          change (identifierOrder (i :: is) (j :: js)).isLE at hij
          change (identifierOrder (j :: js) (k :: ks)).isLE at hjk
          change (identifierOrder (i :: is) (k :: ks)).isLE
          exact Std.TransCmp.isLE_trans hij hjk

/-! ## Versions -/

instance : Std.TransCmp fun v w : Version => preOrder v.pre w.pre where
  eq_swap {v w} := Std.OrientedCmp.eq_swap
  isLE_trans {u v w} huv hvw := by
    change (preOrder u.pre v.pre).isLE at huv
    change (preOrder v.pre w.pre).isLE at hvw
    exact Std.TransCmp.isLE_trans huv hvw

instance : Std.TransCmp precedence :=
  inferInstanceAs
    (Std.TransCmp
      (compareLex (compareOn major) (compareLex (compareOn minor)
        (compareLex (compareOn patch) fun v w : Version => preOrder v.pre w.pre))))

variable {u v w : Version}

theorem below_eq_false : w.below v = false ↔ (v.precedence w).isLE := by
  have hswap : w.precedence v = (v.precedence w).swap := Std.OrientedCmp.eq_swap
  rw [below, hswap]
  cases v.precedence w <;> decide

theorem not_below_self (v : Version) : v.below v = false := by
  have hself : v.precedence v = .eq := Std.ReflCmp.compare_self
  rw [below_eq_false, hself]
  rfl

/-- If neither of two steps goes down, both together do not. -/
theorem not_below_trans (huv : v.below u = false) (hvw : w.below v = false) :
    w.below u = false := by
  rw [below_eq_false] at huv hvw ⊢
  exact Std.TransCmp.isLE_trans huv hvw

theorem atLeast_iff {version minimum : String} :
    atLeast version minimum ↔ ∃ v m, parse? version = some v ∧ parse? minimum = some m ∧
      v.below m = false := by
  unfold atLeast
  cases parse? version with
  | none => simp
  | some v =>
    cases parse? minimum with
    | none => simp
    | some m => simp

theorem major_le_of_not_below (h : w.below v = false) : v.major ≤ w.major := by
  rw [below_eq_false, precedence] at h
  refine Std.isLE_compare.1 ?_
  cases hmajor : compare v.major w.major with
  | lt => rfl
  | eq => rfl
  | gt =>
    rw [hmajor] at h
    cases h

/-! ## What is below -/

/-- A pre-release is below another: having one is below having none, and else the first identifiers
that differ decide, or the shorter list is below. -/
inductive PreBelow : List PreIdentifier → List PreIdentifier → Prop
  | release {i : PreIdentifier} {is : List PreIdentifier} : PreBelow (i :: is) []
  | identifiers {i j : PreIdentifier} {is js : List PreIdentifier} :
    List.Lex PreIdentifier.Below (i :: is) (j :: js) → PreBelow (i :: is) (j :: js)

/-- A version is below another in precedence. -/
inductive Below (v w : Version) : Prop
  | major : v.major < w.major → Below v w
  | minor : v.major = w.major → v.minor < w.minor → Below v w
  | patch : v.major = w.major → v.minor = w.minor → v.patch < w.patch → Below v w
  | pre : v.major = w.major → v.minor = w.minor → v.patch = w.patch → PreBelow v.pre w.pre →
    Below v w

theorem identifierOrder_eq_lt {is js : List PreIdentifier} :
    identifierOrder is js = .lt ↔ List.Lex PreIdentifier.Below is js := by
  induction is generalizing js with
  | nil =>
    cases js with
    | nil => exact ⟨nofun, nofun⟩
    | cons j js => exact ⟨fun _ => .nil, fun _ => rfl⟩
  | cons i is ih =>
    cases js with
    | nil => exact ⟨nofun, nofun⟩
    | cons j js =>
      rw [identifierOrder, Ordering.then_eq_lt, PreIdentifier.order_eq_lt,
        PreIdentifier.order_eq_eq, ih]
      constructor
      · rintro (h | ⟨rfl, h⟩)
        · exact .rel h
        · exact .cons h
      · rintro (_ | h | h)
        · exact .inl h
        · exact .inr ⟨rfl, h⟩

theorem preOrder_eq_lt {is js : List PreIdentifier} : preOrder is js = .lt ↔ PreBelow is js := by
  cases is with
  | nil => cases js <;> exact ⟨nofun, nofun⟩
  | cons i is =>
    cases js with
    | nil => exact ⟨fun _ => .release, fun _ => rfl⟩
    | cons j js =>
      exact identifierOrder_eq_lt.trans ⟨.identifiers, fun | .identifiers h => h⟩

theorem below_iff {v w : Version} : v.below w ↔ v.Below w := by
  have hcompare (a b : UInt64) : compare a b = .eq ↔ a = b := Std.compare_eq_iff_eq
  rw [below, beq_iff_eq, precedence, Ordering.then_eq_lt, Ordering.then_eq_lt, Ordering.then_eq_lt,
    preOrder_eq_lt]
  simp only [Std.compare_eq_lt, hcompare]
  constructor
  · rintro (h | ⟨hmajor, h | ⟨hminor, h | ⟨hpatch, h⟩⟩⟩)
    · exact .major h
    · exact .minor hmajor h
    · exact .patch hmajor hminor h
    · exact .pre hmajor hminor hpatch h
  · rintro (h | ⟨hmajor, h⟩ | ⟨hmajor, hminor, h⟩ | ⟨hmajor, hminor, hpatch, h⟩)
    · exact .inl h
    · exact .inr ⟨hmajor, .inl h⟩
    · exact .inr ⟨hmajor, .inr ⟨hminor, .inl h⟩⟩
    · exact .inr ⟨hmajor, .inr ⟨hminor, .inr ⟨hpatch, h⟩⟩⟩

end Version

end ClusterAdmission
