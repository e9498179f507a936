import ClusterAdmission.Binary64
import Mathlib.Algebra.Order.Field.Power
import Mathlib.Data.Rat.Cast.Order
import Mathlib.Tactic.FieldSimp
import Mathlib.Tactic.Linarith
import Mathlib.Tactic.Positivity
import Mathlib.Tactic.Ring

/-!
# Rounding to binary64

What a ratio is rounded to (`Binary64.ofRatio_nearest`), said by the middles between neighbouring
numbers: what lies beyond a middle is rounded up across it, what does not is not. So rounding never
turns an order around, and two numbers are rounded to different ones if and only if a middle
separates them (`Binary64.Nearest.lt_iff`).
-/

namespace ClusterAdmission.Binary64

/-- A mantissa and an exponent as results have them: the exponent is the smallest one for which the
mantissa is below `2^53`. -/
structure Canonical (m : ℕ) (e : ℤ) : Prop where
  minExponent_le : minExponent ≤ e
  mantissa_lt : m < 2 ^ 53
  normal : e = minExponent ∨ 2 ^ 52 ≤ m

/-- A number lies beyond the middle between `m · 2^e` and `(m + 1) · 2^e`. The middle itself counts
as beyond where `m` is odd, since a half goes to the even mantissa. -/
def Beyond (m : ℕ) (e : ℤ) (x : ℚ) : Prop :=
  (2 * m + 1) * (2 : ℚ) ^ e < 2 * x ∨ (2 * m + 1) * (2 : ℚ) ^ e = 2 * x ∧ m % 2 = 1

/-- The middle between two neighbouring numbers separates two numbers: only the second lies beyond
it. -/
def Separated (x y : ℚ) : Prop := ∃ m e, Canonical m e ∧ ¬ Beyond m e x ∧ Beyond m e y

/-- `m · 2^e` is the number that `x` is rounded to. -/
structure Nearest (x : ℚ) (m : ℕ) (e : ℤ) : Prop where
  canonical : Canonical m e
  le_of_beyond (k : ℕ) (f : ℤ) : Canonical k f → Beyond k f x →
    (k + 1) * (2 : ℚ) ^ f ≤ m * 2 ^ e
  le_of_not_beyond (k : ℕ) (f : ℤ) : Canonical k f → ¬ Beyond k f x →
    m * (2 : ℚ) ^ e ≤ k * 2 ^ f

variable {m n k num den : ℕ} {e f : ℤ} {x y : ℚ}

theorem Beyond.mono (h : Beyond k f x) (hxy : x ≤ y) : Beyond k f y := by
  rcases h with hlt | ⟨heq, hodd⟩
  · exact .inl (by linarith)
  · rcases hxy.lt_or_eq with hlt | rfl
    · exact .inl (by linarith)
    · exact .inr ⟨heq, hodd⟩

theorem two_zpow_pos (e : ℤ) : (0 : ℚ) < 2 ^ e := zpow_pos (by norm_num) e

theorem two_zpow_of_neg (h : e < 0) : (2 : ℚ) ^ e = (2 ^ (-e).toNat)⁻¹ := by
  rw [← zpow_natCast, ← zpow_neg]
  congr 1
  omega

theorem two_zpow_of_nonneg (h : ¬ e < 0) : (2 : ℚ) ^ e = 2 ^ e.toNat := by
  rw [← zpow_natCast]
  congr 1
  omega

/-- Numbers with a smaller exponent come before those whose mantissa is at least `2^52`. -/
theorem Canonical.succ_le (hk : Canonical k f) (h : f < e) :
    (k + 1) * (2 : ℚ) ^ f ≤ 2 ^ 52 * 2 ^ e := by
  have hk' : (k : ℚ) + 1 ≤ 2 ^ 53 := by exact_mod_cast hk.mantissa_lt
  have hstep : (2 : ℚ) ^ (f + 1) ≤ 2 ^ e := zpow_le_zpow_right₀ (by norm_num) (by omega)
  calc (k + 1) * (2 : ℚ) ^ f ≤ 2 ^ 53 * 2 ^ f :=
        mul_le_mul_of_nonneg_right hk' (two_zpow_pos f).le
    _ = 2 ^ 52 * 2 ^ (f + 1) := by
        rw [zpow_add_one₀ (by norm_num)]
        ring
    _ ≤ 2 ^ 52 * 2 ^ e := mul_le_mul_of_nonneg_left hstep (by norm_num)

/-- Numbers with a larger exponent come after those whose mantissa is at most `2^53`. -/
theorem Canonical.le_of_lt (hk : Canonical k f) (hmin : minExponent ≤ e) (h : e < f) :
    2 ^ 53 * (2 : ℚ) ^ e ≤ k * 2 ^ f := by
  have hk' : (2 : ℚ) ^ 52 ≤ k := by
    exact_mod_cast hk.normal.resolve_left fun heq => absurd hmin (by omega)
  have hstep : (2 : ℚ) ^ (e + 1) ≤ 2 ^ f := zpow_le_zpow_right₀ (by norm_num) (by omega)
  calc 2 ^ 53 * (2 : ℚ) ^ e = 2 ^ 52 * 2 ^ (e + 1) := by
        rw [zpow_add_one₀ (by norm_num)]
        ring
    _ ≤ 2 ^ 52 * 2 ^ f := mul_le_mul_of_nonneg_left hstep (by norm_num)
    _ ≤ k * 2 ^ f := mul_le_mul_of_nonneg_right hk' (two_zpow_pos f).le

/-- Nothing lies between a number and the next one. -/
theorem Canonical.succ_le_of_lt (hk : Canonical k f) (hn : Canonical n e)
    (h : k * (2 : ℚ) ^ f < n * 2 ^ e) : (k + 1) * (2 : ℚ) ^ f ≤ n * 2 ^ e := by
  have hunit := two_zpow_pos e
  rcases lt_trichotomy f e with hlt | rfl | hgt
  · have hn' : (2 : ℚ) ^ 52 ≤ n := by
      exact_mod_cast hn.normal.resolve_left (hk.minExponent_le.trans_lt hlt).ne'
    exact (hk.succ_le hlt).trans (mul_le_mul_of_nonneg_right hn' hunit.le)
  · have hkn : (k : ℚ) < n := lt_of_mul_lt_mul_right h hunit.le
    exact mul_le_mul_of_nonneg_right (by exact_mod_cast hkn) hunit.le
  · have hn' : (n : ℚ) < 2 ^ 53 := by exact_mod_cast hn.mantissa_lt
    have hlt := mul_lt_mul_of_pos_right hn' hunit
    exact absurd (hk.le_of_lt hn.minExponent_le hgt) (by linarith)

/-! ## The exponent -/

/-- The exponent that canonical numbers near `x` have. -/
structure IsExponent (x : ℚ) (e : ℤ) : Prop where
  minExponent_le : minExponent ≤ e
  lt : x < 2 ^ 53 * 2 ^ e
  le : e = minExponent ∨ 2 ^ 52 * 2 ^ e ≤ x

theorem scaled_snd_pos (hden : 0 < den) : 0 < (scaled num den e).2 := by
  unfold scaled
  split
  · exact hden
  · exact Nat.mul_pos hden (Nat.pow_pos (by decide))

theorem scaled_eq (hden : 0 < den) :
    ((scaled num den e).1 : ℚ) / (scaled num den e).2 = num / den / 2 ^ e := by
  have hden' : (den : ℚ) ≠ 0 := by exact_mod_cast hden.ne'
  unfold scaled
  split
  · next hneg =>
    rw [two_zpow_of_neg hneg]
    push_cast [Nat.pow_eq]
    field_simp
  · next hneg =>
    rw [two_zpow_of_nonneg hneg]
    push_cast [Nat.pow_eq]
    field_simp

theorem IsExponent.of_normal (hle : 2 ^ 52 * 2 ^ e ≤ x) (hlt : x < 2 ^ 53 * 2 ^ e) :
    IsExponent x (max minExponent e) := by
  rcases le_total minExponent e with h | h
  · rw [max_eq_right h]
    exact ⟨h, hlt, .inr hle⟩
  · rw [max_eq_left h]
    have hpow : (2 : ℚ) ^ e ≤ 2 ^ minExponent := zpow_le_zpow_right₀ (by norm_num) h
    exact ⟨le_rfl, by linarith, .inl rfl⟩

/-- The logarithms of numerator and denominator give the exponent up to one. -/
theorem ratio_bounds (hnum : 0 < num) (hden : 0 < den) :
    let e : ℤ := (num.log2 : ℤ) - den.log2 - 53
    2 ^ 52 * (2 : ℚ) ^ e ≤ num / den ∧ (num : ℚ) / den < 2 ^ 54 * 2 ^ e := by
  intro e
  have hden' : (0 : ℚ) < den := by exact_mod_cast hden
  have hpow : 2 ^ 53 * (2 : ℚ) ^ e * 2 ^ den.log2 = 2 ^ num.log2 := by
    simp only [e, ← zpow_natCast]
    rw [← zpow_add₀ (by norm_num), ← zpow_add₀ (by norm_num)]
    congr 1
    push_cast
    ring
  have hnumLe : (2 : ℚ) ^ num.log2 ≤ num := by exact_mod_cast Nat.log2_self_le hnum.ne'
  have hnumLt : (num : ℚ) < 2 * 2 ^ num.log2 := by
    have hlt := Nat.lt_log2_self (n := num)
    rw [pow_succ'] at hlt
    exact_mod_cast hlt
  have hdenLe : (2 : ℚ) ^ den.log2 ≤ den := by exact_mod_cast Nat.log2_self_le hden.ne'
  have hdenLt : (den : ℚ) < 2 * 2 ^ den.log2 := by
    have hlt := Nat.lt_log2_self (n := den)
    rw [pow_succ'] at hlt
    exact_mod_cast hlt
  have hunit := two_zpow_pos e
  constructor
  · rw [le_div_iff₀ hden']
    have hscaled := mul_le_mul_of_nonneg_left hdenLt.le hunit.le
    linarith
  · rw [div_lt_iff₀ hden']
    have hscaled := mul_le_mul_of_nonneg_left hdenLe hunit.le
    linarith

theorem scaled_lt_iff (hden : 0 < den) {bound : ℕ} :
    (scaled num den e).1 < (scaled num den e).2 * bound ↔ (num : ℚ) / den < bound * 2 ^ e := by
  have hpos : (0 : ℚ) < (scaled num den e).2 := by exact_mod_cast scaled_snd_pos hden
  rw [← div_lt_iff₀ (two_zpow_pos e), ← scaled_eq hden, div_lt_iff₀ hpos, mul_comm]
  exact_mod_cast Iff.rfl

theorem isExponent_exponentFor (hnum : 0 < num) (hden : 0 < den) :
    IsExponent (num / den) (exponentFor num den) := by
  obtain ⟨hle, hlt⟩ := ratio_bounds hnum hden
  unfold exponentFor
  extract_lets e
  split
  next n d hscaled =>
  have hfits : n < d * Nat.pow 2 53 ↔ (num : ℚ) / den < 2 ^ 53 * 2 ^ e := by
    have hiff : (scaled num den e).1 < (scaled num den e).2 * 2 ^ 53 ↔ _ := scaled_lt_iff hden
    rw [hscaled] at hiff
    exact_mod_cast hiff
  split
  · next h => exact .of_normal hle (hfits.1 h)
  · next h =>
    have hge := not_lt.1 (mt hfits.2 h)
    refine .of_normal ?_ ?_ <;> rw [zpow_add_one₀ (by norm_num)] <;> linarith

/-! ## The mantissa -/

theorem lt_roundDiv_iff (hden : 0 < den) :
    k < roundDiv num den ↔
      (2 * k + 1) * den < 2 * num ∨ (2 * k + 1) * den = 2 * num ∧ k % 2 = 1 := by
  unfold roundDiv
  extract_lets q r
  have hsplit : num = den * q + r := (Nat.div_add_mod num den).symm
  have hr : r < den := Nat.mod_lt num hden
  clear_value q r
  have hexpand : (2 * k + 1) * den = 2 * (den * k) + den := by ring
  rw [hexpand, hsplit]
  have hround : q ≤ (if 2 * r < den then q else if den < 2 * r then q + 1 else q + q % 2) ∧
      (if 2 * r < den then q else if den < 2 * r then q + 1 else q + q % 2) ≤ q + 1 := by
    constructor <;> split_ifs <;> omega
  rcases Nat.lt_trichotomy k q with hlt | rfl | hgt
  · have hprod : den * (k + 1) ≤ den * q := Nat.mul_le_mul_left den hlt
    rw [Nat.mul_add_one] at hprod
    exact iff_of_true (Nat.lt_of_lt_of_le hlt hround.1) (.inl (by omega))
  · split_ifs <;> omega
  · have hprod : den * (q + 1) ≤ den * k := Nat.mul_le_mul_left den hgt
    rw [Nat.mul_add_one] at hprod
    refine iff_of_false (Nat.not_lt.2 (hround.2.trans hgt)) ?_
    rintro (h | ⟨h, -⟩) <;> omega

/-- The mantissa before a carry exceeds `k` if and only if the ratio lies beyond the middle above
`k`. -/
theorem lt_mantissa_iff (hden : 0 < den) :
    k < roundDiv (scaled num den e).1 (scaled num den e).2 ↔ Beyond k e (num / den) := by
  have hpos : (0 : ℚ) < (scaled num den e).2 := by exact_mod_cast scaled_snd_pos hden
  have hunit := two_zpow_pos e
  have hratio : (num : ℚ) / den = (scaled num den e).1 / (scaled num den e).2 * 2 ^ e := by
    rw [scaled_eq hden, div_mul_cancel₀ _ hunit.ne']
  have hdouble : 2 * ((num : ℚ) / den) =
      2 * (scaled num den e).1 / (scaled num den e).2 * 2 ^ e := by
    rw [hratio]
    ring
  rw [lt_roundDiv_iff (scaled_snd_pos hden), Beyond, hdouble, mul_lt_mul_iff_left₀ hunit,
    mul_left_inj' hunit.ne', lt_div_iff₀ hpos, eq_div_iff hpos.ne']
  exact_mod_cast Iff.rfl

section Mantissa

variable {q : ℕ} (he : IsExponent x e) (hq : ∀ k, k < q ↔ Beyond k e x)

include he hq

theorem mantissa_le : q ≤ 2 ^ 53 := by
  refine not_lt.1 fun h => ?_
  have hunit := two_zpow_pos e
  have hlt := he.lt
  rcases (hq _).1 h with hbeyond | ⟨hbeyond, -⟩ <;> push_cast at hbeyond <;> linarith

theorem le_mantissa (h : e ≠ minExponent) : 2 ^ 52 ≤ q := by
  have hunit := two_zpow_pos e
  have hle := he.le.resolve_left h
  refine Nat.succ_le_of_lt ((hq (2 ^ 52 - 1)).2 (.inl ?_))
  norm_num
  linarith

/-- The number with the mantissa is the nearest one: the middles at other exponents lie on the same
side of it as of `x`. -/
theorem nearest_of_mantissa (hm : Canonical m f) (hvalue : (m : ℚ) * 2 ^ f = q * 2 ^ e) :
    Nearest x m f := by
  have hunit := two_zpow_pos e
  have hqLe : (q : ℚ) * 2 ^ e ≤ 2 ^ 53 * 2 ^ e :=
    mul_le_mul_of_nonneg_right (by exact_mod_cast mantissa_le he hq) hunit.le
  have hqGe (h : minExponent < e) : 2 ^ 52 * (2 : ℚ) ^ e ≤ q * 2 ^ e :=
    mul_le_mul_of_nonneg_right (by exact_mod_cast le_mantissa he hq h.ne') hunit.le
  refine ⟨hm, fun k g hk hbeyond => ?_, fun k g hk hbeyond => ?_⟩ <;> rw [hvalue] <;>
    rcases lt_trichotomy g e with hlt | rfl | hgt
  · exact (hk.succ_le hlt).trans (hqGe (hk.minExponent_le.trans_lt hlt))
  · exact mul_le_mul_of_nonneg_right (by exact_mod_cast (hq k).2 hbeyond) hunit.le
  · have hlt := he.lt
    have hle := hk.le_of_lt he.minExponent_le hgt
    have hunit' := two_zpow_pos g
    rcases hbeyond with hbeyond | ⟨hbeyond, -⟩ <;> linarith
  · have hle := he.le.resolve_left (hk.minExponent_le.trans_lt hlt).ne'
    have hsucc := hk.succ_le hlt
    have hunit' := two_zpow_pos g
    exact absurd (.inl (by linarith)) hbeyond
  · refine mul_le_mul_of_nonneg_right ?_ hunit.le
    exact_mod_cast not_lt.1 (mt (hq k).1 hbeyond)
  · exact hqLe.trans (hk.le_of_lt he.minExponent_le hgt)

end Mantissa

theorem IsExponent.lt_maxExponent (he : IsExponent x e) (hfits : x < 2 ^ 1023) :
    e < maxExponent := by
  rcases he.le with rfl | hle
  · decide
  · have hpow : (2 : ℚ) ^ (52 + e) < 2 ^ (1023 : ℤ) := by
      rw [zpow_add₀ (by norm_num)]
      exact hle.trans_lt hfits
    have hlt := (zpow_lt_zpow_iff_right₀ (by norm_num)).1 hpow
    change e < 971
    omega

/-- Ratios that do not overflow are rounded to the nearest number. -/
theorem ofRatio_nearest (s : Bool) (hnum : 0 < num) (hden : 0 < den)
    (hfits : (num : ℚ) / den < 2 ^ 1023) :
    ∃ m e, ofRatio s num den = .finite s m e ∧ Nearest (num / den) m e := by
  have he := isExponent_exponentFor hnum hden
  have hq (k : ℕ) : k < roundDiv (scaled num den (exponentFor num den)).1
      (scaled num den (exponentFor num den)).2 ↔ _ := lt_mantissa_iff hden
  have hmax := he.lt_maxExponent hfits
  unfold ofRatio
  rw [if_neg hnum.ne']
  extract_lets e
  split
  next n d hscaled =>
  rw [hscaled] at hq
  extract_lets q
  by_cases hcarry : q = Nat.pow 2 53
  · -- The mantissa is halved, and the exponent goes up by one.
    rw [if_pos hcarry]
    refine ⟨2 ^ 52, e + 1, if_neg (by omega), nearest_of_mantissa he hq ?_ ?_⟩
    · exact ⟨he.minExponent_le.trans (Int.le_add_one le_rfl), by norm_num, .inr le_rfl⟩
    · change ((2 ^ 52 : ℕ) : ℚ) * 2 ^ (e + 1) = (q : ℚ) * 2 ^ e
      rw [hcarry, zpow_add_one₀ (by norm_num)]
      push_cast [Nat.pow_eq]
      ring
  · rw [if_neg hcarry]
    refine ⟨q, e, if_neg (by omega), nearest_of_mantissa he hq ?_ rfl⟩
    have hnormal : e = minExponent ∨ 2 ^ 52 ≤ q :=
      or_iff_not_imp_left.2 fun hne => le_mantissa he hq hne
    exact ⟨he.minExponent_le, lt_of_le_of_ne (mantissa_le he hq) hcarry, hnormal⟩

theorem mantissa_pos (h : 0 < (m : ℚ) * 2 ^ e) : 0 < m := by
  exact_mod_cast pos_of_mul_pos_left h (two_zpow_pos e).le

/-! ## Nearest numbers -/

namespace Nearest

theorem congr (h : Nearest x m e) (hn : Canonical n f) (hvalue : (n : ℚ) * 2 ^ f = m * 2 ^ e) :
    Nearest x n f := by
  refine ⟨hn, fun k g hk hbeyond => ?_, fun k g hk hbeyond => ?_⟩ <;> rw [hvalue]
  · exact h.le_of_beyond k g hk hbeyond
  · exact h.le_of_not_beyond k g hk hbeyond

theorem not_beyond (h : Nearest x m e) : ¬ Beyond m e x := by
  intro hbeyond
  have hle := h.le_of_beyond m e h.canonical hbeyond
  have hunit := two_zpow_pos e
  linarith

/-- Only what is tiny is rounded to zero. -/
theorem pos (h : Nearest x m e) (hx : (2 : ℚ) ^ minExponent ≤ x) : 0 < m := by
  refine Nat.pos_of_ne_zero fun hm => h.not_beyond (.inl ?_)
  have he : e = minExponent := h.canonical.normal.resolve_right (by omega)
  have hunit := two_zpow_pos minExponent
  rw [hm, he]
  norm_num
  linarith

/-- Two numbers are rounded to different ones, in their order, if and only if a middle separates
them. -/
theorem lt_iff (hx : Nearest x m e) (hy : Nearest y n f) :
    (m : ℚ) * 2 ^ e < n * 2 ^ f ↔ Separated x y := by
  constructor
  · intro hlt
    refine ⟨m, e, hx.canonical, hx.not_beyond, ?_⟩
    by_contra hbeyond
    exact absurd (hy.le_of_not_beyond m e hx.canonical hbeyond) (not_le.2 hlt)
  · rintro ⟨k, g, hk, hbelow, hbeyond⟩
    have hle := hx.le_of_not_beyond k g hk hbelow
    have hge := hy.le_of_beyond k g hk hbeyond
    have hunit := two_zpow_pos g
    linarith

/-- Rounding keeps the order of two numbers, or makes them equal. -/
theorem mono (hx : Nearest x m e) (hy : Nearest y n f) (hxy : x ≤ y) :
    (m : ℚ) * 2 ^ e ≤ n * 2 ^ f := by
  refine not_lt.1 fun hlt => ?_
  obtain ⟨k, g, -, hbelow, hbeyond⟩ := (hy.lt_iff hx).1 hlt
  exact hbelow (hbeyond.mono hxy)

end Nearest

theorem exists_canonical (hpos : 0 < k) (hk : k < 2 ^ 53) (hf : minExponent ≤ f) :
    ∃ m e, Canonical m e ∧ (m : ℚ) * 2 ^ e = k * 2 ^ f := by
  obtain ⟨d, rfl⟩ := Int.le.dest hf
  induction d generalizing k with
  | zero => exact ⟨k, _, ⟨hf, hk, .inl (by simp)⟩, rfl⟩
  | succ d ih =>
    by_cases hlarge : 2 ^ 52 ≤ k
    · exact ⟨k, _, ⟨hf, hk, .inr hlarge⟩, rfl⟩
    · obtain ⟨m, e, hm, hvalue⟩ := ih (k := 2 * k) (by omega) (by omega) (by omega)
      refine ⟨m, e, hm, hvalue.trans ?_⟩
      push_cast
      rw [← add_assoc, zpow_add_one₀ (by norm_num)]
      ring

theorem Canonical.nearest (hn : Canonical n e) : Nearest (n * 2 ^ e) n e where
  canonical := hn
  le_of_beyond k f hk hbeyond := by
    have hunit := two_zpow_pos f
    refine hk.succ_le_of_lt hn ?_
    rcases hbeyond with hbeyond | ⟨hbeyond, -⟩ <;> linarith
  le_of_not_beyond k f hk hbeyond := by
    have hunit := two_zpow_pos f
    refine not_lt.1 fun hlt => hbeyond (.inl ?_)
    have hsucc := hk.succ_le_of_lt hn hlt
    linarith

/-- A number that fits is rounded to itself. -/
theorem Nearest.eq_of_fits (h : Nearest (k * 2 ^ f) m e) (hpos : 0 < k) (hk : k < 2 ^ 53)
    (hf : minExponent ≤ f) : (m : ℚ) * 2 ^ e = k * 2 ^ f := by
  obtain ⟨n, g, hn, hvalue⟩ := exists_canonical hpos hk hf
  have hself : Nearest (k * 2 ^ f) n g := hvalue ▸ hn.nearest
  rw [← hvalue]
  exact le_antisymm (h.mono hself le_rfl) (hself.mono h le_rfl)

/-! ## Finite numbers -/

/-- The comparison of finite numbers without a sign is that of their values. -/
theorem lt_finite_iff :
    lt (.finite false m e) (.finite false n f) = true ↔ (m : ℚ) * 2 ^ e < n * 2 ^ f := by
  have hunits (k : ℕ) (g : ℤ) (hg : min e f ≤ g) :
      ((unitsAt (min e f) false k g : ℤ) : ℚ) * 2 ^ min e f = k * 2 ^ g := by
    have hpow : (2 : ℚ) ^ g = 2 ^ (g - min e f).toNat * 2 ^ min e f := by
      rw [← zpow_natCast, ← zpow_add₀ (by norm_num)]
      congr 1
      omega
    rw [hpow, unitsAt]
    push_cast [Nat.pow_eq]
    ring
  rw [lt, decide_eq_true_eq, ← hunits m e (min_le_left e f), ← hunits n f (min_le_right e f),
    mul_lt_mul_iff_left₀ (two_zpow_pos _)]
  exact Int.cast_lt.symm

theorem exists_ofRatio_ofDyadic (s : Bool) (hm : 0 < m) (e : ℤ) :
    ∃ num den : ℕ, 0 < num ∧ 0 < den ∧ (num : ℚ) / den = m * 2 ^ e ∧
      ofDyadic s m e = ofRatio s num den := by
  unfold ofDyadic
  split
  · next hneg =>
    refine ⟨m, Nat.pow 2 (-e).toNat, hm, Nat.pow_pos (by decide), ?_, rfl⟩
    rw [two_zpow_of_neg hneg]
    push_cast [Nat.pow_eq]
    exact div_eq_mul_inv _ _
  · next hneg =>
    refine ⟨m * Nat.pow 2 e.toNat, 1, Nat.mul_pos hm (Nat.pow_pos (by decide)), by decide, ?_, rfl⟩
    rw [two_zpow_of_nonneg hneg]
    push_cast [Nat.pow_eq]
    exact div_one _

/-- A product that does not overflow is the number nearest to the product of the values. -/
theorem mul_nearest (hm : 0 < m) (hn : 0 < n) (hfits : (m : ℚ) * 2 ^ e * (n * 2 ^ f) < 2 ^ 1023) :
    ∃ k g, mul (.finite false m e) (.finite false n f) = .finite false k g ∧
      Nearest (m * 2 ^ e * (n * 2 ^ f)) k g := by
  obtain ⟨num, den, hnum, hden, hratio, hdyadic⟩ :=
    exists_ofRatio_ofDyadic false (Nat.mul_pos hm hn) (e + f)
  have hvalue : (m : ℚ) * 2 ^ e * (n * 2 ^ f) = num / den := by
    rw [hratio, zpow_add₀ (by norm_num)]
    push_cast
    ring
  rw [hvalue] at hfits ⊢
  obtain ⟨k, g, hround, hnearest⟩ := ofRatio_nearest false hnum hden hfits
  exact ⟨k, g, hdyadic.trans hround, hnearest⟩

theorem one_eq : one = .finite false (2 ^ 52) (-52) := by decide +kernel

/-- Times one, a number that does not overflow is rounded to itself. -/
theorem Nearest.mul_one (h : Nearest x m e) (hm : 0 < m) (hfits : (m : ℚ) * 2 ^ e < 2 ^ 1023) :
    ∃ k g, mul (.finite false m e) one = .finite false k g ∧ Nearest x k g := by
  have hproduct : (m : ℚ) * 2 ^ e * ((2 ^ 52 : ℕ) * 2 ^ (-52 : ℤ)) = m * 2 ^ e := by norm_num
  obtain ⟨k, g, hmul, hnearest⟩ :=
    mul_nearest hm (by norm_num) (hproduct.symm ▸ hfits)
  rw [hproduct] at hnearest
  have hvalue := hnearest.eq_of_fits hm h.canonical.mantissa_lt h.canonical.minExponent_le
  exact ⟨k, g, one_eq ▸ hmul, h.congr hnearest.canonical hvalue⟩

end ClusterAdmission.Binary64
