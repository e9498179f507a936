import ClusterAdmission.Text.Numeral
import ClusterAdmission.Time.Calendar

/-!
# Instants

An instant is a count of nanoseconds from 1970-01-01T00:00:00Z. It is read from a date, a time and
an offset from UTC, and written in UTC.
-/

namespace ClusterAdmission

namespace Timestamp

/-- The nanoseconds of a second. -/
def perSecond : Int := 1000000000

/-- The first instant, -009999-01-02T01:59:59Z, in seconds. -/
def minSecond : Int := -377705023201

/-- The last whole second, 9999-12-30T22:00:00Z. -/
def maxSecond : Int := 253402207200

end Timestamp

/-- An instant that can be represented, in nanoseconds from 1970-01-01T00:00:00Z. -/
structure Timestamp where
  nanoseconds : Int
  /-- The instant is not before the first one. -/
  min_le : Timestamp.minSecond * Timestamp.perSecond ≤ nanoseconds
  /-- The instant is not after the last second. -/
  lt_max : nanoseconds < (Timestamp.maxSecond + 1) * Timestamp.perSecond
  deriving DecidableEq, Repr

namespace Timestamp

/-- The instant of a count of nanoseconds, if it can be represented. -/
def ofNanoseconds? (n : Int) : Option Timestamp :=
  if h : minSecond * perSecond ≤ n ∧ n < (maxSecond + 1) * perSecond then
    some ⟨n, h.1, h.2⟩
  else
    none

/-- The instant of a whole second, if it can be represented. -/
def ofSecond? (seconds : Int) : Option Timestamp := ofNanoseconds? (seconds * perSecond)

/-- The second of an instant, rounded towards 1970. -/
def second (t : Timestamp) : Int := t.nanoseconds.tdiv perSecond

/-- The last whole second at or before an instant. -/
def floorSecond (t : Timestamp) : Int := t.nanoseconds / perSecond

theorem floorSecond_bounds (t : Timestamp) :
    minSecond ≤ t.floorSecond ∧ t.floorSecond ≤ maxSecond := by
  have hmin := t.min_le
  have hmax := t.lt_max
  simp only [floorSecond, perSecond, minSecond, maxSecond] at hmin hmax ⊢
  omega

/-- An instant cut to the whole second at or before it. -/
def cut (t : Timestamp) : Timestamp where
  nanoseconds := t.floorSecond * perSecond
  min_le := by
    have h := t.floorSecond_bounds.1
    simp only [perSecond, minSecond] at h ⊢
    omega
  lt_max := by
    have h := t.floorSecond_bounds.2
    simp only [perSecond, maxSecond] at h ⊢
    omega

/-! ## Reading -/

/-- A number of exactly two digits up to `hi`, and the rest. -/
def twoDigits? (hi : Nat) (cs : List Char) : Option (Nat × List Char) :=
  (Text.fixed? 2 cs).filter fun (v, _) => v ≤ hi

/-- A year: four digits, or a sign and six digits; there is no year minus zero. -/
def year? : List Char → Option (Int × List Char)
  | '+' :: cs => (Text.fixed? 6 cs).map fun (y, rest) => ((y : Int), rest)
  | '-' :: cs =>
    ((Text.fixed? 6 cs).filter fun (y, _) => y ≠ 0).map fun (y, rest) => (-(y : Int), rest)
  | cs => (Text.fixed? 4 cs).map fun (y, rest) => ((y : Int), rest)

/-- A date, either with hyphens between its parts or without. -/
def date? (cs : List Char) : Option (CivilDate × List Char) := do
  let (year, rest) ← year? cs
  let (month, day, rest) ← match rest with
    | '-' :: rest => do
      let (month, rest) ← Text.fixed? 2 rest
      match rest with
      | '-' :: rest =>
        let (day, rest) ← Text.fixed? 2 rest
        some (month, day, rest)
      | _ => none
    | rest => do
      let (month, rest) ← Text.fixed? 2 rest
      let (day, rest) ← Text.fixed? 2 rest
      some (month, day, rest)
  let date : CivilDate := { year, month, day }
  if date.isValid then some (date, rest) else none

/-- A further part of two digits, up to `hi`, if there is one: behind a colon in the form with
colons, and in the other form when two digits follow. -/
def nextPart? (colons : Bool) (hi : Nat) (cs : List Char) : Option (Option Nat × List Char) :=
  if colons then
    match cs with
    | ':' :: rest => (twoDigits? hi rest).map fun (v, rest) => (some v, rest)
    | _ => some (none, cs)
  else if (cs.take 2).length = 2 && (cs.take 2).all Char.isDigit then
    (twoDigits? hi cs).map fun (v, rest) => (some v, rest)
  else
    some (none, cs)

/-- A fraction of a second in nanoseconds: a point or comma and one to nine digits, if any. -/
def fraction? (cs : List Char) : Option (Nat × List Char) :=
  match cs with
  | c :: rest =>
    if c = '.' ∨ c = ',' then
      let ds := rest.takeWhile Char.isDigit
      if ds.length ≤ 9 then
        (Text.natural? ds).map fun v =>
          (v * Nat.pow 10 (9 - ds.length), rest.dropWhile Char.isDigit)
      else
        none
    else
      some (0, cs)
  | [] => some (0, [])

/-- Two or three parts of two digits as a count of seconds: the first up to `hi`, then up to 59,
then up to `last`. Tells whether there is a third part. -/
def clock? (hi last : Nat) (cs : List Char) : Option (Nat × Nat × Option Nat × List Char) := do
  let (hour, rest) ← twoDigits? hi cs
  let colons := rest.head? == some ':'
  let (minute, rest) ← nextPart? colons 59 rest
  match minute with
  | none => some (hour, 0, none, rest)
  | some minute =>
    let (second, rest) ← nextPart? colons last rest
    some (hour, minute, second, rest)

/-- A time of day in nanoseconds. Minutes and seconds may be left out; second 60 is second 59. -/
def time? (cs : List Char) : Option (Int × List Char) := do
  let (hour, minute, second, rest) ← clock? 23 60 cs
  let (nanoseconds, rest) ← if second.isSome then fraction? rest else some (0, rest)
  let seconds := hour * 3600 + minute * 60 + min (second.getD 0) 59
  some (seconds * perSecond + nanoseconds, rest)

/-- An offset from UTC in seconds: `Z`, or a sign with hours up to 25, minutes and seconds. -/
def offset? : List Char → Option (Int × List Char)
  | 'Z' :: rest | 'z' :: rest => some (0, rest)
  | '+' :: cs => do
    let (hour, minute, second, rest) ← clock? 25 59 cs
    some (((hour * 3600 + minute * 60 + second.getD 0 : Nat) : Int), rest)
  | '-' :: cs => do
    let (hour, minute, second, rest) ← clock? 25 59 cs
    some (-((hour * 3600 + minute * 60 + second.getD 0 : Nat) : Int), rest)
  | _ => none

/-- Reads a date, a time and an offset. -/
def parse? (text : String) : Option Timestamp := do
  let (date, rest) ← date? text.toList
  match rest with
  | c :: rest =>
    if c = 'T' ∨ c = 't' ∨ c = ' ' then
      let (time, rest) ← time? rest
      let (offset, rest) ← offset? rest
      if rest.isEmpty then ofNanoseconds? ((date.toDays * 86400 - offset) * perSecond + time)
      else none
    else
      none
  | [] => none

/-! ## Writing -/

/-- A year in four digits, below zero with a sign and six digits. -/
def yearText (year : Int) : List Char :=
  if year < 0 then '-' :: Text.padded 6 year.natAbs else Text.padded 4 year.toNat

/-- The date and time of a whole second in UTC, without the closing `Z`. -/
def secondText (seconds : Int) : List Char :=
  let date := CivilDate.ofDays (seconds / 86400)
  let time := (seconds % 86400).toNat
  yearText date.year ++ '-' :: Text.padded 2 date.month ++ '-' :: Text.padded 2 date.day ++
    'T' :: Text.padded 2 (time / 3600) ++ ':' :: Text.padded 2 (time / 60 % 60) ++
    ':' :: Text.padded 2 (time % 60)

/-- The instant in UTC, cut to the whole second. -/
def wholeText (t : Timestamp) : String := .ofList (secondText t.floorSecond ++ ['Z'])

/-- The instant in UTC; a fraction is written without zeros at its end, and not at all if it is
zero. -/
def text (t : Timestamp) : String :=
  let nanoseconds := (t.nanoseconds % perSecond).toNat
  let fraction := (Text.padded 9 nanoseconds).reverse.dropWhile (· == '0')
  .ofList (secondText t.floorSecond ++
    (if nanoseconds = 0 then [] else '.' :: fraction.reverse) ++ ['Z'])

example : (parse? "2024-05-01T12:00:00.50+05:30").map text = some "2024-05-01T06:30:00.5Z" := by
  decide +kernel

example : (parse? "-000001-06-01T00:00:01Z").map text = some "-000001-06-01T00:00:01Z" := by
  decide +kernel

example : parse? "2023-02-29T00:00:00Z" = none ∧ parse? "2023-02-28T00:00:00" = none := by
  decide +kernel

example : ofSecond? minSecond = parse? "-009999-01-02T01:59:59Z" := by decide +kernel

example : ofSecond? maxSecond = parse? "9999-12-30T22:00:00Z" := by decide +kernel

end Timestamp

end ClusterAdmission
