import ClusterAdmission.Binary64
import ClusterAdmission.Decimal

/-!
# The shortest decimal that reads back

A finite binary64 number is written with the fewest decimal digits that round to it again. For each
count of digits only the two neighbours of the number on that decimal grid can be candidates; of two
that read back, the nearer one is taken, and the even one of two equally near.
-/

namespace ClusterAdmission

namespace Binary64

/-- The ratio `m · 2^e / 10^k`, as numerator and denominator. -/
def ratioAt (m : Nat) (e k : Int) : Nat × Nat :=
  let num := m * Nat.pow 2 e.toNat * Nat.pow 10 (-k).toNat
  let den := Nat.pow 2 (-e).toNat * Nat.pow 10 k.toNat
  (num, den)

/-- The count of decimal digits of the integer part of `num / den`. -/
def integerDigits (num den : Nat) : Nat :=
  if num < den then 0 else (Text.digits (num / den)).length

/-- The exponent `k` with `10^k ≤ m · 2^e < 10^(k+1)`, for `m ≠ 0`. -/
def leadingExponent (m : Nat) (e : Int) : Int :=
  let (num, den) := ratioAt m e 0
  if den ≤ num then
    (integerDigits num den : Int) - 1
  else
    let k : Int := (integerDigits den num : Int)
    let (n, d) := ratioAt m e (1 - k)
    if d ≤ n then 1 - k else -k

/-- The decimal of `count` digits that reads back as `m · 2^e`, if there is one. -/
def decimalOfDigits? (m : Nat) (e : Int) (count : Nat) : Option Decimal :=
  let k := leadingExponent m e - count + 1
  let (num, den) := ratioAt m e k
  let low := num / den
  let readsBack (d : Nat) : Bool := ofDecimal false d k == .finite false m e
  match readsBack low, readsBack (low + 1) with
  | false, false => none
  | true, false => some ⟨low, k⟩
  | false, true => some ⟨low + 1, k⟩
  | true, true =>
    let twice := 2 * (num % den)
    if twice < den ∨ twice = den ∧ low % 2 = 0 then some ⟨low, k⟩ else some ⟨low + 1, k⟩

/-- The shortest decimal that reads back as `m · 2^e`; 17 digits always do. -/
def shortest (m : Nat) (e : Int) : Decimal :=
  if m = 0 then
    ⟨0, 0⟩
  else
    let found := (List.range 17).findSome? fun i => decimalOfDigits? m e (i + 1)
    Decimal.trimZeros 17 (found.getD ⟨0, 0⟩)

/-- The shortest text of a number. -/
def text : Binary64 → String
  | .nan => "NaN"
  | .infinite s => if s then "-inf" else "inf"
  | .finite s m e => .ofList ((if s then ['-'] else []) ++ (shortest m e).text)

example : (ofDecimal false 1 (-3)).text = "0.001" := by decide +kernel

example : (ofInt 2).text = "2.0" := by decide +kernel

example : (ofDecimal false 325 (-1)).text = "32.5" := by decide +kernel

example : (ofDecimal false 5 (-324)).text = "5e-324" := by decide +kernel

end Binary64

end ClusterAdmission
