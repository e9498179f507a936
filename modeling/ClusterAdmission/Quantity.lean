import ClusterAdmission.Binary64
import ClusterAdmission.Text.Blank
import ClusterAdmission.Text.Numeral

/-!
# Resource quantities

A quantity is a signed decimal number with a suffix for its unit or with a power of ten, such as
`600m`, `1.5Gi` or `1e3`. Its value in base units is the product of two binary64 numbers, the number
and the multiplier, so it is subject to rounding.
-/

namespace ClusterAdmission

/-- The suffixes of units. -/
inductive QuantitySuffix where
  | nano | micro | milli | kilo | mega | giga | tera | peta | exa
  | kibi | mebi | gibi | tebi | pebi | exbi
  deriving DecidableEq, Repr

namespace QuantitySuffix

/-- The spellings of the suffixes. -/
def table : List (List Char × QuantitySuffix) :=
  [(['n'], nano), (['u'], micro), (['m'], milli), (['k'], kilo), (['M'], mega), (['G'], giga),
    (['T'], tera), (['P'], peta), (['E'], exa), (['K', 'i'], kibi), (['M', 'i'], mebi),
    (['G', 'i'], gibi), (['T', 'i'], tebi), (['P', 'i'], pebi), (['E', 'i'], exbi)]

/-- The base and exponent of the power that a suffix stands for. -/
def power : QuantitySuffix → Nat × Int
  | nano => (10, -9)
  | micro => (10, -6)
  | milli => (10, -3)
  | kilo => (10, 3)
  | mega => (10, 6)
  | giga => (10, 9)
  | tera => (10, 12)
  | peta => (10, 15)
  | exa => (10, 18)
  | kibi => (1024, 1)
  | mebi => (1024, 2)
  | gibi => (1024, 3)
  | tebi => (1024, 4)
  | pebi => (1024, 5)
  | exbi => (1024, 6)

/-- The binary64 number nearest to the power. -/
def multiplier (s : QuantitySuffix) : Binary64 :=
  let (base, e) := s.power
  if e < 0 then .ofRatio false 1 (Nat.pow base (-e).toNat)
  else .ofRatio false (Nat.pow base e.toNat) 1

end QuantitySuffix

/-- How the number of a quantity is scaled. -/
inductive QuantityScale where
  | plain
  | suffix (s : QuantitySuffix)
  | powerOfTen (e : Int)
  deriving DecidableEq, Repr

namespace QuantityScale

/-- The multiplier of a scale. Powers of ten are computed by repeated squaring. -/
def multiplier : QuantityScale → Binary64
  | .plain => .one
  | .suffix s => s.multiplier
  | .powerOfTen e => Binary64.pow (.ofInt 10) e

end QuantityScale

/-- A quantity as it is written: the number `±digits / 10^places` and its scale. -/
structure Quantity where
  negative : Bool
  digits : Nat
  places : Nat
  scale : QuantityScale
  deriving DecidableEq, Repr

namespace Quantity

/-- The sign at the start of a number, and the rest. -/
def sign : List Char → Bool × List Char
  | '-' :: cs => (true, cs)
  | '+' :: cs => (false, cs)
  | cs => (false, cs)

/-- A number without its sign: digits with an optional point behind or between them, or a point
with digits behind it. Gives the digits, the count of those after the point, and the rest. -/
def unsigned? (cs : List Char) : Option (Nat × Nat × List Char) :=
  let whole := cs.takeWhile Char.isDigit
  let rest := cs.dropWhile Char.isDigit
  let (fraction, rest) := match rest with
    | '.' :: rest' =>
      let fraction := rest'.takeWhile Char.isDigit
      if whole.isEmpty && fraction.isEmpty then ([], rest)
      else (fraction, rest'.dropWhile Char.isDigit)
    | _ => ([], rest)
  (Text.natural? (whole ++ fraction)).map fun n => (n, fraction.length, rest)

/-- An exponent behind its letter: a sign, if any, and digits. -/
def exponentText? : List Char → Option (List Char)
  | '-' :: ds => (Text.natural? ds).map fun _ => '-' :: ds
  | '+' :: ds => (Text.natural? ds).map fun _ => '+' :: ds
  | ds => (Text.natural? ds).map fun _ => ds

/-- The scale behind a number. A letter `e` or `E` with digits behind it is an exponent, which must
fit into 32 bits; a single `E` is a suffix. -/
def scale? : List Char → Option QuantityScale
  | [] => some .plain
  | c :: cs =>
    match if c = 'e' ∨ c = 'E' then exponentText? cs else none with
    | some ds => (Text.integerIn? Int32.minValue.toInt Int32.maxValue.toInt ds).map .powerOfTen
    | none => (QuantitySuffix.table.lookup (c :: cs)).map .suffix

/-- Reads a quantity; blanks around it do not count. -/
def parse? (text : String) : Option Quantity := do
  let (negative, rest) := sign (Text.trim text.toList)
  let (digits, places, rest) ← unsigned? rest
  let scale ← scale? rest
  return { negative, digits, places, scale }

/-- The number of a quantity, rounded to binary64. -/
def number (q : Quantity) : Binary64 := .ofRatio q.negative q.digits (Nat.pow 10 q.places)

/-- The value in base units: the rounded number times the multiplier, rounded again. -/
def value (q : Quantity) : Binary64 := q.number.mul q.scale.multiplier

/-- The value of a text that is a quantity. -/
def valueOf? (text : String) : Option Binary64 := (parse? text).map value

example : (valueOf? "600m").map Binary64.hex = some "3fe3333333333333" := by decide +kernel

example : valueOf? "1E" = valueOf? "1E18" := by decide +kernel

example : valueOf? "0e999" = some .nan := by decide +kernel

example : parse? "1e" = none ∧ parse? "." = none ∧ parse? "1e2147483648" = none := by
  decide +kernel

end Quantity

end ClusterAdmission
