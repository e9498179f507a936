/-!
# Binary floating point with 64 bits

Numbers of the form `±m · 2^e` with `m < 2^53`, the two infinities and "not a number", with
arithmetic that is exact up to one rounding to the nearest such number, ties to the even `m`.
Everything is computed in integers, so that results can be reasoned about.
-/

namespace ClusterAdmission

/-- A binary64 number. A finite one is `±mantissa · 2^exponent`; results of this module have the
smallest exponent, at least -1074, for which the mantissa is below `2^53`. -/
inductive Binary64 where
  | finite (negative : Bool) (mantissa : Nat) (exponent : Int)
  | infinite (negative : Bool)
  | nan
  deriving DecidableEq, Repr, Inhabited

namespace Binary64

/-- The smallest exponent of a finite number. -/
def minExponent : Int := -1074

/-- The largest exponent of a finite number. -/
def maxExponent : Int := 971

/-- The number zero. -/
def zero (negative : Bool) : Binary64 := .finite negative 0 minExponent

/-- The integer nearest to `num / den`, an exact half going to the even neighbour. -/
def roundDiv (num den : Nat) : Nat :=
  let q := num / den
  let r := num % den
  if 2 * r < den then q else if den < 2 * r then q + 1 else q + q % 2

/-- The quotient `num / (den · 2^e)`, as numerator and denominator. -/
def scaled (num den : Nat) (e : Int) : Nat × Nat :=
  if e < 0 then (num * Nat.pow 2 (-e).toNat, den) else (num, den * Nat.pow 2 e.toNat)

/-- The smallest exponent, at least `minExponent`, that keeps `num / den` below `2^53` units. -/
def exponentFor (num den : Nat) : Int :=
  let e : Int := (num.log2 : Int) - den.log2 - 53
  let (n, d) := scaled num den e
  max minExponent (if n < d * Nat.pow 2 53 then e else e + 1)

/-- The binary64 number nearest to `num / den`, an exact half going to the even mantissa. -/
def ofRatio (negative : Bool) (num den : Nat) : Binary64 :=
  if num = 0 then
    zero negative
  else
    let e := exponentFor num den
    let (n, d) := scaled num den e
    let m := roundDiv n d
    let (m, e) := if m = Nat.pow 2 53 then (Nat.pow 2 52, e + 1) else (m, e)
    if maxExponent < e then .infinite negative else .finite negative m e

/-- The binary64 number nearest to `m · 2^e`. -/
def ofDyadic (negative : Bool) (m : Nat) (e : Int) : Binary64 :=
  if e < 0 then ofRatio negative m (Nat.pow 2 (-e).toNat)
  else ofRatio negative (m * Nat.pow 2 e.toNat) 1

/-- The binary64 number nearest to `m · 10^e`. -/
def ofDecimal (negative : Bool) (m : Nat) (e : Int) : Binary64 :=
  if e < 0 then ofRatio negative m (Nat.pow 10 (-e).toNat)
  else ofRatio negative (m * Nat.pow 10 e.toNat) 1

/-- The binary64 number nearest to an integer. -/
def ofInt (n : Int) : Binary64 := ofRatio (n < 0) n.natAbs 1

/-- The number one. -/
def one : Binary64 := ofInt 1

/-- The product, rounded once. -/
def mul : Binary64 → Binary64 → Binary64
  | .nan, _ | _, .nan => .nan
  | .infinite s, .infinite t => .infinite (s != t)
  | .infinite s, .finite t m _ => if m = 0 then .nan else .infinite (s != t)
  | .finite s m _, .infinite t => if m = 0 then .nan else .infinite (s != t)
  | .finite s m e, .finite t n f => ofDyadic (s != t) (m * n) (e + f)

/-- The reciprocal, rounded once. -/
def inv : Binary64 → Binary64
  | .nan => .nan
  | .infinite s => zero s
  | .finite s m e =>
    if m = 0 then .infinite s
    else if e < 0 then ofRatio s (Nat.pow 2 (-e).toNat) m
    else ofRatio s 1 (m * Nat.pow 2 e.toNat)

/-- The signed mantissa of a finite number at a common exponent `e`, not above its own. -/
def unitsAt (e : Int) (negative : Bool) (mantissa : Nat) (exponent : Int) : Int :=
  let units : Int := (mantissa * Nat.pow 2 (exponent - e).toNat : Nat)
  if negative then -units else units

/-- The sum, rounded once. -/
def add : Binary64 → Binary64 → Binary64
  | .nan, _ | _, .nan => .nan
  | .infinite s, .infinite t => if s = t then .infinite s else .nan
  | .infinite s, .finite .. => .infinite s
  | .finite .., .infinite t => .infinite t
  | .finite s m e, .finite t n f =>
    let low := min e f
    let total := unitsAt low s m e + unitsAt low t n f
    if total = 0 then zero (s && t) else ofDyadic (total < 0) total.natAbs low

/-- Strictly smaller; false whenever one side is not a number. -/
def lt : Binary64 → Binary64 → Bool
  | .nan, _ | _, .nan => false
  | .infinite s, .infinite t => s && !t
  | .infinite s, .finite .. => s
  | .finite .., .infinite t => !t
  | .finite s m e, .finite t n f => unitsAt (min e f) s m e < unitsAt (min e f) t n f

/-- Not above; false whenever one side is not a number. -/
def le : Binary64 → Binary64 → Bool
  | .nan, _ | _, .nan => false
  | a, b => !lt b a

/-- The steps of raising `a` to the power `n` by repeated squaring, each rounded: multiply the
result when the exponent is odd, halve the exponent, stop at zero, square. -/
def powSteps : Nat → Binary64 → Binary64 → Nat → Binary64
  | 0, result, _, _ => result
  | fuel + 1, result, a, n =>
    let result := if n % 2 = 1 then result.mul a else result
    if n / 2 = 0 then result else powSteps fuel result (a.mul a) (n / 2)

/-- The power `a^n` by repeated squaring; a negative exponent inverts the positive power. -/
def pow (a : Binary64) (n : Int) : Binary64 :=
  let power := powSteps (n.natAbs.log2 + 1) one a n.natAbs
  if n < 0 then power.inv else power

/-- The word that stores the number: sign, eleven exponent bits, 52 mantissa bits. -/
def bits : Binary64 → Nat
  | .nan => 2047 * Nat.pow 2 52 + Nat.pow 2 51
  | .infinite s => (if s then Nat.pow 2 63 else 0) + 2047 * Nat.pow 2 52
  | .finite s m e =>
    let sign := if s then Nat.pow 2 63 else 0
    if m < Nat.pow 2 52 then sign + m
    else sign + (e + 1075).toNat * Nat.pow 2 52 + (m - Nat.pow 2 52)

/-- The word as 16 hexadecimal digits, or `NaN`. -/
def hex : Binary64 → String
  | .nan => "NaN"
  | x =>
    let ds := Nat.toDigits 16 x.bits
    .ofList (List.replicate (16 - ds.length) '0' ++ ds)

example : (ofDecimal false 1 (-1)).hex = "3fb999999999999a" := by decide +kernel

example : (ofDecimal false 3 0).mul (ofDecimal false 1 (-1)) ≠ ofDecimal false 3 (-1) := by
  decide +kernel

example : (pow (ofInt 10) (-400)).hex = "0000000000000000" := by decide +kernel

example : (ofDecimal true 5 (-324)).hex = "8000000000000001" := by decide +kernel

end Binary64

end ClusterAdmission
