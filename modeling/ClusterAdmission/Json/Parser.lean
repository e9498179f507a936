import ClusterAdmission.Json
import ClusterAdmission.Text.Numeral

/-!
# Reading JSON texts

One value with nothing but blanks around it. Of two members with one key the later counts. Values
nest at most 127 deep, and a number must not exceed the range of binary64.
-/

namespace ClusterAdmission.Json

/-- Drops the blanks of JSON. -/
def skipBlanks : List Char → List Char
  | ' ' :: cs | '\t' :: cs | '\n' :: cs | '\r' :: cs => skipBlanks cs
  | cs => cs

/-- A hexadecimal digit of either case. -/
def hexDigit? (c : Char) : Option Nat :=
  if c.isDigit then some (c.toNat - '0'.toNat)
  else if 'a' ≤ c ∧ c ≤ 'f' then some (c.toNat - 'a'.toNat + 10)
  else if 'A' ≤ c ∧ c ≤ 'F' then some (c.toNat - 'A'.toNat + 10)
  else none

/-- A UTF-16 unit of four hexadecimal digits. -/
def unit? : List Char → Option (Nat × List Char)
  | a :: b :: c :: d :: rest => do
    let a ← hexDigit? a
    let b ← hexDigit? b
    let c ← hexDigit? c
    let d ← hexDigit? d
    return (((a * 16 + b) * 16 + c) * 16 + d, rest)
  | _ => none

/-- The character of a `\u` escape, of which the units follow. A leading unit needs its trailing
unit behind it, and a trailing unit cannot stand alone. -/
def unicodeEscape? (cs : List Char) : Option (Char × List Char) := do
  let (hi, rest) ← unit? cs
  if 0xD800 ≤ hi ∧ hi < 0xDC00 then
    match rest with
    | '\\' :: 'u' :: rest =>
      let (lo, rest) ← unit? rest
      if 0xDC00 ≤ lo ∧ lo < 0xE000 then
        return (.ofNat (0x10000 + (hi - 0xD800) * 0x400 + (lo - 0xDC00)), rest)
      else
        none
    | _ => none
  else if 0xDC00 ≤ hi ∧ hi < 0xE000 then
    none
  else
    return (.ofNat hi, rest)

/-- The rest of a string after its opening quote, and what follows the closing one. -/
def stringRest? : Nat → List Char → Option (List Char × List Char)
  | 0, _ => none
  | fuel + 1, cs =>
    match cs with
    | '"' :: rest => some ([], rest)
    | '\\' :: 'u' :: rest => do
      let (c, rest) ← unicodeEscape? rest
      let (s, rest) ← stringRest? fuel rest
      return (c :: s, rest)
    | '\\' :: e :: rest => do
      let c ← [('"', '"'), ('\\', '\\'), ('/', '/'), ('b', '\x08'), ('f', '\x0c'), ('n', '\n'),
        ('r', '\r'), ('t', '\t')].lookup e
      let (s, rest) ← stringRest? fuel rest
      return (c :: s, rest)
    | c :: rest =>
      if c.toNat < 0x20 ∨ c = '\\' then
        none
      else do
        let (s, rest) ← stringRest? fuel rest
        return (c :: s, rest)
    | [] => none

/-- The digits at the start of a text, of which there is at least one. -/
def digitRun? (cs : List Char) : Option (List Char × List Char) :=
  let ds := cs.takeWhile Char.isDigit
  if ds.isEmpty then none else some (ds, cs.dropWhile Char.isDigit)

/-- The binary64 number nearest to `m · 10^e`, unless that is out of range. -/
def decimal? (negative : Bool) (m : Nat) (e : Int) : Option Binary64 :=
  let size : Int := (Text.digits m).length + e
  if m = 0 ∨ size < -400 then some (.zero negative)
  else if 400 < size then none
  else
    match Binary64.ofDecimal negative m e with
    | .infinite _ => none
    | x => some x

/-- A number after its sign. -/
def magnitude? (negative : Bool) (cs : List Char) : Option (Json × List Char) := do
  let (whole, rest) ← digitRun? cs
  if whole.length ≠ 1 ∧ whole.head? = some '0' then
    none
  let (fraction, rest) ← match rest with
    | '.' :: rest => digitRun? rest
    | rest => some ([], rest)
  let (exponent, rest) ← match rest with
    | c :: rest' =>
      if c = 'e' ∨ c = 'E' then
        match rest' with
        | '-' :: ds => (digitRun? ds).map fun (ds, rest) => (some ('-' :: ds), rest)
        | '+' :: ds => (digitRun? ds).map fun (ds, rest) => (some ds, rest)
        | ds => (digitRun? ds).map fun (ds, rest) => (some ds, rest)
      else
        some (none, rest)
    | [] => some (none, rest)
  let m ← Text.natural? (whole ++ fraction)
  let plain := fraction.isEmpty && exponent.isNone
  if plain && !negative && m < UInt64.size then
    return (.int m, rest)
  else if plain && negative && m ≠ 0 && m ≤ Int64.minValue.toInt.natAbs then
    return (.int (-m), rest)
  else
    let e ← match exponent with
      | none => some 0
      | some ds => Text.integer? ds
    let x ← decimal? negative m (e - fraction.length)
    return (.real x, rest)

/-- A number. -/
def numeral? : List Char → Option (Json × List Char)
  | '-' :: cs => magnitude? true cs
  | cs => magnitude? false cs

/-- A name of a constant value. -/
def constant? (cs : List Char) : Option (Json × List Char) :=
  match cs with
  | 'n' :: 'u' :: 'l' :: 'l' :: rest => some (.null, rest)
  | 't' :: 'r' :: 'u' :: 'e' :: rest => some (.bool true, rest)
  | 'f' :: 'a' :: 'l' :: 's' :: 'e' :: rest => some (.bool false, rest)
  | _ => none

mutual

/-- A value at the start of a text, blanks in front. The fuel bounds the characters read, the depth
the values around. -/
def value? : Nat → Nat → List Char → Option (Json × List Char)
  | 0, _, _ => none
  | fuel + 1, depth, cs =>
    match skipBlanks cs with
    | '"' :: rest => do
      let (s, rest) ← stringRest? (rest.length + 1) rest
      return (.str (.ofList s), rest)
    | '[' :: rest =>
      if depth = 0 then
        none
      else
        match skipBlanks rest with
        | ']' :: rest => some (.arr [], rest)
        | rest => do
          let (xs, rest) ← elements? fuel (depth - 1) rest
          return (.arr xs, rest)
    | '{' :: rest =>
      if depth = 0 then
        none
      else
        match skipBlanks rest with
        | '}' :: rest => some (.obj [], rest)
        | rest => do
          let (ms, rest) ← members? fuel (depth - 1) [] rest
          return (.obj ms, rest)
    | c :: rest => if c = '-' ∨ c.isDigit then numeral? (c :: rest) else constant? (c :: rest)
    | [] => none

/-- The elements of an array up to its closing bracket. -/
def elements? : Nat → Nat → List Char → Option (List Json × List Char)
  | 0, _, _ => none
  | fuel + 1, depth, cs => do
    let (x, rest) ← value? fuel depth cs
    match skipBlanks rest with
    | ',' :: rest =>
      let (xs, rest) ← elements? fuel depth rest
      return (x :: xs, rest)
    | ']' :: rest => return ([x], rest)
    | _ => none

/-- The members of an object up to its closing brace, put among those read before. -/
def members? : Nat → Nat → Members → List Char → Option (Members × List Char)
  | 0, _, _, _ => none
  | fuel + 1, depth, ms, cs =>
    match skipBlanks cs with
    | '"' :: rest => do
      let (key, rest) ← stringRest? (rest.length + 1) rest
      match skipBlanks rest with
      | ':' :: rest =>
        let (x, rest) ← value? fuel depth rest
        let ms := Entries.insert (String.ofList key) x ms
        match skipBlanks rest with
        | ',' :: rest => members? fuel depth ms rest
        | '}' :: rest => return (ms, rest)
        | _ => none
      | _ => none
    | _ => none

end

/-- The value that a text holds. -/
def parse? (s : String) : Option Json := do
  let cs := s.toList
  let (j, rest) ← value? (2 * cs.length + 2) 127 cs
  if (skipBlanks rest).isEmpty then some j else none

end ClusterAdmission.Json
