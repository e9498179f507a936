import ClusterAdmission.Text.Numeral

/-!
# Decimals

A decimal is a count of units of a power of ten. Its text is positional in the middle of the range
and has an exponent outside of it.
-/

namespace ClusterAdmission

/-- A decimal `digits · 10^exponent`. -/
structure Decimal where
  digits : Nat
  exponent : Int
  deriving DecidableEq, Repr, Inhabited

namespace Decimal

/-- Drops the zeros at the end of the digits. -/
def trimZeros : Nat → Decimal → Decimal
  | 0, d => d
  | fuel + 1, d =>
    if d.digits ≠ 0 ∧ d.digits % 10 = 0 then
      trimZeros fuel ⟨d.digits / 10, d.exponent + 1⟩
    else
      d

/-- Digits with a point before the last `places` of them, at least one digit on each side. -/
def withPoint (digits : List Char) (places : Nat) : List Char :=
  let whole := digits.length - places
  let before := if whole = 0 then ['0'] else digits.take whole
  let fraction := List.replicate (places - digits.length) '0' ++ digits.drop whole
  before ++ '.' :: (if fraction.isEmpty then ['0'] else fraction)

/-- A decimal in text: positional with at least one place while its leading digit stands between
the fifth place after the point and the 21st before it, else digit, point, digits and exponent. -/
def text (d : Decimal) : List Char :=
  let ds := Text.digits d.digits
  let point : Int := ds.length + d.exponent
  if 0 ≤ d.exponent ∧ point ≤ 21 then
    withPoint (ds ++ List.replicate d.exponent.toNat '0') 0
  else if -5 ≤ point ∧ point ≤ 21 then
    withPoint ds (-d.exponent).toNat
  else
    let mantissa := match ds with
      | [c] => [c]
      | c :: cs => c :: '.' :: cs
      | [] => []
    let power := point - 1
    mantissa ++ 'e' :: (if power < 0 then ['-'] else []) ++ Text.digits power.natAbs

example : (Decimal.mk 325 (-1)).text = "32.5".toList := by decide

example : (Decimal.mk 2 0).text = "2.0".toList := by decide

example : (Decimal.mk 123 (-8)).text = "0.00000123".toList := by decide

example : (Decimal.mk 123 (-9)).text = "1.23e-7".toList := by decide

example : (Decimal.mk 1 21).text = "1e21".toList := by decide

end Decimal

end ClusterAdmission
