/-!
# Decimal numerals

Numbers written in ASCII digits. A bare numeral may have leading zeros; an integer may have a sign
in front of it, and is refused when it lies outside the range asked for.
-/

namespace ClusterAdmission.Text

/-- The number that a nonempty list of digits denotes. -/
def natural? (cs : List Char) : Option Nat :=
  if !cs.isEmpty && cs.all Char.isDigit then some (Nat.ofDigitChars 10 cs 0) else none

/-- The digits of a number, without leading zeros. -/
def digits (n : Nat) : List Char := Nat.toDigits 10 n

/-- An integer with an optional sign. -/
def integer? : List Char → Option Int
  | '-' :: cs => (natural? cs).map fun n => -(n : Int)
  | '+' :: cs => (natural? cs).map Int.ofNat
  | cs => (natural? cs).map Int.ofNat

/-- An integer between `lo` and `hi`, with an optional sign. -/
def integerIn? (lo hi : Int) (cs : List Char) : Option Int :=
  (integer? cs).filter fun n => lo ≤ n && n ≤ hi

/-- A natural number up to `hi`; a plus sign may stand before it, a minus sign may not. -/
def naturalUpTo? (hi : Nat) : List Char → Option Nat
  | '+' :: cs => (natural? cs).filter (· ≤ hi)
  | cs => (natural? cs).filter (· ≤ hi)

/-- A number of exactly `n` digits, and the rest. -/
def fixed? (n : Nat) (cs : List Char) : Option (Nat × List Char) :=
  if (cs.take n).length = n then (natural? (cs.take n)).map fun v => (v, cs.drop n) else none

/-- The number written with at least `width` digits, zeros in front. -/
def padded (width n : Nat) : List Char :=
  let ds := digits n
  List.replicate (width - ds.length) '0' ++ ds

theorem natural?_eq_some {cs : List Char} {n : Nat} :
    natural? cs = some n ↔
      cs ≠ [] ∧ (∀ c ∈ cs, c.isDigit) ∧ Nat.ofDigitChars 10 cs 0 = n := by
  rw [natural?, Option.ite_none_right_eq_some, Bool.and_eq_true, List.all_eq_true, and_assoc]
  simp

theorem naturalUpTo?_eq_some {hi n : Nat} {cs : List Char} :
    naturalUpTo? hi cs = some n ↔
      (natural? cs = some n ∨ ∃ ds, cs = '+' :: ds ∧ natural? ds = some n) ∧ n ≤ hi := by
  unfold naturalUpTo?
  split
  · next ds =>
    -- A plus sign is no digit.
    have hsign : natural? ('+' :: ds) = none := by simp [natural?]
    simp [Option.filter_eq_some_iff, hsign]
  · next hplus =>
    have hnone (ds : List Char) : ¬ cs = '+' :: ds := fun h => hplus ds h
    simp [Option.filter_eq_some_iff, hnone]

/-- Characters of different kinds differ. -/
theorem ne_of_kind {kind : Char → Bool} {c d : Char} (hc : kind c) (hd : kind d = false) :
    c ≠ d := by
  rintro rfl
  rw [hc] at hd
  cases hd

theorem all_isDigit_digits (n : Nat) : (digits n).all Char.isDigit = true := by
  rw [List.all_eq_true]
  intro c hc
  exact Nat.isDigit_of_mem_toDigits (by decide) (by decide) hc

theorem isDigit_of_mem_digits {n : Nat} {c : Char} (h : c ∈ digits n) : c.isDigit :=
  List.all_eq_true.1 (all_isDigit_digits n) c h

theorem not_mem_digits {n : Nat} {c : Char} (hc : c.isDigit = false) : c ∉ digits n :=
  fun h => ne_of_kind (isDigit_of_mem_digits h) hc rfl

theorem digits_ne_nil (n : Nat) : digits n ≠ [] := Nat.toDigits_ne_nil

theorem natural?_digits (n : Nat) : natural? (digits n) = some n := by
  have hne : (digits n).isEmpty = false := by simp [digits]
  rw [natural?, hne, all_isDigit_digits]
  simp [digits, Nat.ofDigitChars_toDigits]

theorem digits_inj {m n : Nat} (h : digits m = digits n) : m = n := by
  have hread : natural? (digits m) = natural? (digits n) := congrArg _ h
  rwa [natural?_digits, natural?_digits, Option.some.injEq] at hread

/-! ## Without leading zeros -/

theorem digit_lt_ten {c : Char} (h : c.isDigit) : c.toNat - '0'.toNat < 10 := by
  have hhi : c.toNat ≤ 57 := (Char.isDigit_iff_toNat.1 h).2
  change c.toNat - 48 < 10
  omega

theorem digits_digit {c : Char} (h : c.isDigit) : digits (c.toNat - '0'.toNat) = [c] := by
  have hlo : '0'.toNat ≤ c.toNat := (Char.isDigit_iff_toNat.1 h).1
  have htable : ∀ k < 10, Nat.digitChar k = Char.ofNat ('0'.toNat + k) := by decide
  rw [digits, Nat.toDigits_of_lt_base (digit_lt_ten h), htable _ (digit_lt_ten h),
    Nat.add_sub_cancel' hlo, Char.ofNat_toNat]

theorem head?_digits_ne {n : Nat} (h : 0 < n) : (digits n).head? ≠ some '0' := by
  induction n using Nat.strongRecOn with
  | ind n ih =>
    rw [digits, Nat.toDigits_eq_if (by decide)]
    split
    · simpa using Nat.ne_of_gt h
    · have hlt : n / 10 < n := Nat.div_lt_self h (by decide)
      have hpos : 0 < n / 10 := by omega
      have hrest := ih (n / 10) hlt hpos
      rw [digits] at hrest
      obtain ⟨c, cs, hcs⟩ := List.exists_cons_of_ne_nil (digits_ne_nil (n / 10))
      rw [digits] at hcs
      rw [hcs] at hrest ⊢
      exact hrest

/-- Digits after those of a positive number are the digits of one number. -/
theorem digits_ofDigitChars {cs : List Char} {start : Nat} (hcs : ∀ c ∈ cs, c.isDigit)
    (hstart : 0 < start) : digits (Nat.ofDigitChars 10 cs start) = digits start ++ cs := by
  induction cs generalizing start with
  | nil => simp
  | cons c cs ih =>
    obtain ⟨hc, hrest⟩ := List.forall_mem_cons.1 hcs
    have hsplit : digits (10 * start + (c.toNat - '0'.toNat)) =
        digits start ++ digits (c.toNat - '0'.toNat) :=
      (Nat.toDigits_append_toDigits (by decide) hstart (digit_lt_ten hc)).symm
    rw [Nat.ofDigitChars_cons, ih hrest (by omega), hsplit, digits_digit hc, List.append_assoc,
      List.singleton_append]

/-- The digits of a number are the one numeral for it that has no leading zero but for zero
itself. -/
theorem eq_digits_iff {cs : List Char} {n : Nat} :
    cs = digits n ↔ natural? cs = some n ∧ ¬ (1 < cs.length ∧ cs.head? = some '0') := by
  constructor
  · rintro rfl
    refine ⟨natural?_digits n, fun ⟨hlength, hhead⟩ => ?_⟩
    rcases Nat.eq_zero_or_pos n with rfl | hpos
    · exact absurd hlength (by decide)
    · exact head?_digits_ne hpos hhead
  · rintro ⟨hn, hzero⟩
    obtain ⟨hne, hcs, rfl⟩ := natural?_eq_some.1 hn
    cases cs with
    | nil => exact absurd rfl hne
    | cons c cs =>
      obtain ⟨hc, hrest⟩ := List.forall_mem_cons.1 hcs
      by_cases h0 : c = '0'
      · have hnil : cs = [] := by
          have hshort : ¬ 1 < (c :: cs).length := fun hlong => hzero ⟨hlong, by simp [h0]⟩
          exact List.eq_nil_of_length_eq_zero (by simp only [List.length_cons] at hshort; omega)
        rw [h0, hnil]
        rfl
      · have hpos : 0 < c.toNat - '0'.toNat := by
          have hlo : '0'.toNat ≤ c.toNat := (Char.isDigit_iff_toNat.1 hc).1
          have hne : c.toNat ≠ '0'.toNat := fun heq => h0 (Char.toNat_inj.1 heq)
          omega
        rw [Nat.ofDigitChars_cons, Nat.mul_zero, Nat.zero_add, digits_ofDigitChars hrest hpos,
          digits_digit hc, List.singleton_append]

/-! ## Padding -/

/-- Zeros in front do not count. -/
theorem ofDigitChars_replicate_zero (k : Nat) (cs : List Char) :
    Nat.ofDigitChars 10 (List.replicate k '0' ++ cs) 0 = Nat.ofDigitChars 10 cs 0 := by
  induction k with
  | zero => rfl
  | succ k ih =>
    rw [List.replicate_succ, List.cons_append, Nat.ofDigitChars_cons]
    exact ih

theorem all_isDigit_padded (width n : Nat) : (padded width n).all Char.isDigit = true := by
  rw [padded, List.all_append, all_isDigit_digits, Bool.and_true, List.all_eq_true]
  intro c hc
  rw [List.eq_of_mem_replicate hc]
  rfl

theorem natural?_padded (width n : Nat) : natural? (padded width n) = some n := by
  have hne : (padded width n).isEmpty = false := by simp [padded, digits]
  have hvalue : Nat.ofDigitChars 10 (padded width n) 0 = n := by
    rw [padded, ofDigitChars_replicate_zero, digits,
      Nat.ofDigitChars_toDigits (by decide) (by decide)]
  rw [natural?, hne, all_isDigit_padded, hvalue]
  rfl

theorem length_padded {width n : Nat} (hwidth : 0 < width) (h : n < Nat.pow 10 width) :
    (padded width n).length = width := by
  have hle : (digits n).length ≤ width :=
    (Nat.length_toDigits_le_iff (by decide) hwidth).2 h
  rw [padded, List.length_append, List.length_replicate]
  omega

/-- A number that fits is read back from its padded digits, and nothing beyond them. -/
theorem fixed?_padded_append {width n : Nat} (hwidth : 0 < width) (h : n < Nat.pow 10 width)
    (rest : List Char) : fixed? width (padded width n ++ rest) = some (n, rest) := by
  have hlength := length_padded hwidth h
  rw [fixed?, List.take_left' hlength, List.drop_left' hlength, if_pos hlength, natural?_padded]
  rfl

example : natural? "0042".toList = some 42 := by decide

example : naturalUpTo? 65535 "+443".toList = some 443 := by decide

example : integerIn? (-128) 127 "128".toList = none := by decide

end ClusterAdmission.Text
