import ClusterAdmission.Binary64

/-!
# Signs of binary64 numbers

Rounding keeps the sign of what it rounds (`Binary64.sign?_ofRatio`), and a product has the sign
that its factors give it or is "not a number" (`Binary64.sign?_mul`). A number that does not lie
below an unsigned one is positive (`Binary64.positive_of_not_lt`), unless the comparison says
nothing about it (`Binary64.Undecided`).
-/

namespace ClusterAdmission.Binary64

/-- The sign of a number; what is not a number has none. -/
def sign? : Binary64 → Option Bool
  | .finite s _ _ | .infinite s => some s
  | .nan => none

/-- A zero of either sign. -/
def IsZero : Binary64 → Prop
  | .finite _ m _ => m = 0
  | _ => False

instance (a : Binary64) : Decidable a.IsZero :=
  match a with
  | .finite _ m _ => inferInstanceAs (Decidable (m = 0))
  | .infinite _ => inferInstanceAs (Decidable False)
  | .nan => inferInstanceAs (Decidable False)

/-- Zeros are equal whatever their signs are, and what is not a number is not below anything, so
comparing these says nothing about signs. -/
def Undecided (a b : Binary64) : Prop := a = .nan ∨ b = .nan ∨ a.IsZero ∧ b.IsZero

instance (a b : Binary64) : Decidable (a.Undecided b) :=
  inferInstanceAs (Decidable (_ ∨ _ ∨ _))

variable {a b : Binary64} {s t : Bool}

theorem sign?_eq_none : a.sign? = none ↔ a = .nan := by
  cases a <;> simp [sign?]

/-! ## Rounding -/

theorem sign?_ofRatio (s : Bool) (num den : Nat) : (ofRatio s num den).sign? = some s := by
  unfold ofRatio
  split
  · rfl
  · extract_lets e
    split
    extract_lets m
    split
    split <;> rfl

theorem isZero_ofRatio_zero (s : Bool) (den : Nat) : (ofRatio s 0 den).IsZero := rfl

theorem sign?_ofDyadic (s : Bool) (m : Nat) (e : Int) : (ofDyadic s m e).sign? = some s := by
  unfold ofDyadic
  split <;> exact sign?_ofRatio _ _ _

theorem isZero_ofDyadic_zero (s : Bool) (e : Int) : (ofDyadic s 0 e).IsZero := by
  unfold ofDyadic
  split
  · exact isZero_ofRatio_zero s _
  · rw [Nat.zero_mul]
    exact isZero_ofRatio_zero s _

/-! ## Products and powers -/

theorem sign?_mul (ha : a.sign? = some s) (hb : b.sign? = some t) :
    a.mul b = .nan ∨ (a.mul b).sign? = some (s != t) := by
  cases a with
  | nan => cases ha
  | infinite s' =>
    obtain rfl := Option.some.inj ha
    cases b with
    | nan => cases hb
    | infinite t' =>
      obtain rfl := Option.some.inj hb
      exact .inr rfl
    | finite t' n f =>
      obtain rfl := Option.some.inj hb
      rw [mul]
      split
      · exact .inl rfl
      · exact .inr rfl
  | finite s' m e =>
    obtain rfl := Option.some.inj ha
    cases b with
    | nan => cases hb
    | infinite t' =>
      obtain rfl := Option.some.inj hb
      rw [mul]
      split
      · exact .inl rfl
      · exact .inr rfl
    | finite t' n f =>
      obtain rfl := Option.some.inj hb
      exact .inr (sign?_ofDyadic _ _ _)

theorem isZero_mul (ha : a.IsZero) (b : Binary64) : a.mul b = .nan ∨ (a.mul b).IsZero := by
  cases a with
  | nan => cases ha
  | infinite _ => cases ha
  | finite s m e =>
    obtain rfl : m = 0 := ha
    cases b with
    | nan => exact .inl rfl
    | infinite t => exact .inl rfl
    | finite t n f =>
      right
      rw [mul, Nat.zero_mul]
      exact isZero_ofDyadic_zero _ _

/-- Without a minus sign. -/
def Unsigned (a : Binary64) : Prop := a.sign? ≠ some true

theorem Unsigned.sign?_eq (h : a.Unsigned) (hnan : a ≠ .nan) : a.sign? = some false := by
  cases hsign : a.sign? with
  | none => exact absurd (sign?_eq_none.1 hsign) hnan
  | some s =>
    cases s with
    | false => rfl
    | true => exact absurd hsign h

theorem unsigned_nan : Unsigned .nan := by simp [Unsigned, sign?]

theorem unsigned_ofRatio (num den : Nat) : (ofRatio false num den).Unsigned := by
  simp [Unsigned, sign?_ofRatio]

theorem Unsigned.mul (ha : a.Unsigned) (hb : b.Unsigned) : (a.mul b).Unsigned := by
  by_cases hna : a = .nan
  · rw [hna]
    exact unsigned_nan
  by_cases hnb : b = .nan
  · have hnan : a.mul b = .nan := by
      rw [hnb]
      cases a <;> rfl
    rw [hnan]
    exact unsigned_nan
  rcases sign?_mul (ha.sign?_eq hna) (hb.sign?_eq hnb) with hnan | hsign
  · rw [hnan]
    exact unsigned_nan
  · simp [Unsigned, hsign]

theorem Unsigned.inv (ha : a.Unsigned) : a.inv.Unsigned := by
  have hsign : a.inv.sign? = a.sign? := by
    cases a with
    | nan => rfl
    | infinite s => rfl
    | finite s m e =>
      rw [Binary64.inv]
      split
      · rfl
      · split <;> exact sign?_ofRatio _ _ _
  rwa [Unsigned, hsign]

theorem Unsigned.powSteps (fuel : Nat) (ha : a.Unsigned) (hb : b.Unsigned) (n : Nat) :
    (powSteps fuel a b n).Unsigned := by
  induction fuel generalizing a b n with
  | zero => exact ha
  | succ fuel ih =>
    have hresult : (if n % 2 = 1 then a.mul b else a).Unsigned := by
      split
      · exact ha.mul hb
      · exact ha
    unfold Binary64.powSteps
    dsimp only
    split
    · exact hresult
    · exact ih hresult (hb.mul hb) _

theorem Unsigned.pow (ha : a.Unsigned) (n : Int) : (a.pow n).Unsigned := by
  have hpower := Unsigned.powSteps (n.natAbs.log2 + 1) (unsigned_ofRatio 1 1) ha n.natAbs
  unfold Binary64.pow
  dsimp only
  split
  · exact hpower.inv
  · exact hpower

/-! ## Comparisons -/

theorem unitsAt_true_le (e : Int) (m : Nat) (f : Int) : unitsAt e true m f ≤ 0 := by
  simp only [unitsAt, if_true]
  omega

theorem unitsAt_false_nonneg (e : Int) (m : Nat) (f : Int) : 0 ≤ unitsAt e false m f := by
  simp only [unitsAt]
  exact Int.natCast_nonneg _

theorem unitsAt_eq_zero_iff {e : Int} {m : Nat} {f : Int} : unitsAt e s m f = 0 ↔ m = 0 := by
  have hpow : 2 ^ (f - e).toNat ≠ 0 := Nat.pos_iff_ne_zero.1 (Nat.pow_pos (by decide))
  have hunits : m * 2 ^ (f - e).toNat = 0 ↔ m = 0 := by
    rw [Nat.mul_eq_zero, or_iff_left hpow]
  rw [← hunits, unitsAt]
  cases s
  · exact Int.natCast_eq_zero
  · exact Int.neg_eq_zero.trans Int.natCast_eq_zero

theorem not_lt_of_undecided (h : a.Undecided b) : a.lt b = false := by
  rcases h with rfl | rfl | ⟨ha, hb⟩
  · rfl
  · cases a <;> rfl
  · cases a with
    | nan => rfl
    | infinite _ => cases ha
    | finite s m e =>
      cases b with
      | nan => rfl
      | infinite _ => cases hb
      | finite t n f =>
        have hm : unitsAt (min e f) s m e = 0 := unitsAt_eq_zero_iff.2 ha
        have hn : unitsAt (min e f) t n f = 0 := unitsAt_eq_zero_iff.2 hb
        simp [lt, hm, hn]

/-- What does not lie below an unsigned number is positive, if the comparison decides that. -/
theorem positive_of_not_lt (hb : b.sign? = some false) (hdecided : ¬ a.Undecided b)
    (h : a.lt b = false) : a.sign? = some false ∧ ¬ a.IsZero := by
  have hnan : a ≠ .nan := fun hnan => hdecided (.inl hnan)
  have hzero (ha : a.IsZero) : ¬ b.IsZero := fun hb => hdecided (.inr (.inr ⟨ha, hb⟩))
  cases b with
  | nan => cases hb
  | infinite t =>
    obtain rfl : t = false := Option.some.inj hb
    cases a with
    | nan => exact absurd rfl hnan
    | infinite s =>
      cases s with
      | false => exact ⟨rfl, id⟩
      | true => cases h
    | finite s m e => cases h
  | finite t n f =>
    obtain rfl : t = false := Option.some.inj hb
    cases a with
    | nan => exact absurd rfl hnan
    | infinite s =>
      cases s with
      | false => exact ⟨rfl, id⟩
      | true => cases h
    | finite s m e =>
      have hnonneg := unitsAt_false_nonneg (min e f) n f
      have hle : unitsAt (min e f) false n f ≤ unitsAt (min e f) s m e := by
        simpa [lt] using h
      -- The units of both numbers are zero only if both numbers are.
      have hm : m ≠ 0 := by
        rintro rfl
        have hunits : unitsAt (min e f) s 0 e = 0 := unitsAt_eq_zero_iff.2 rfl
        have hn : unitsAt (min e f) false n f = 0 := by omega
        exact hzero rfl (unitsAt_eq_zero_iff.1 hn)
      refine ⟨?_, hm⟩
      cases s with
      | false => rfl
      | true =>
        have hnonpos := unitsAt_true_le (min e f) m e
        have hunits : unitsAt (min e f) true m e = 0 := by omega
        exact absurd (unitsAt_eq_zero_iff.1 hunits) hm

end ClusterAdmission.Binary64
