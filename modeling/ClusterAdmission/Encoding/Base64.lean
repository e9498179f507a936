/-!
# Base64

Three bytes are written as four characters of the standard alphabet, with `=` for what is missing at
the end. Reading accepts only what writing produces: the padding must be there and the unused bits
of the last character must be zero.
-/

namespace ClusterAdmission.Base64

/-- The character of a number below 64. -/
def sextetChar (n : Nat) : Char :=
  if n < 26 then .ofNat ('A'.toNat + n)
  else if n < 52 then .ofNat ('a'.toNat + (n - 26))
  else if n < 62 then .ofNat ('0'.toNat + (n - 52))
  else if n = 62 then '+'
  else '/'

/-- The number that a character of the alphabet stands for. -/
def sextet? (c : Char) : Option Nat :=
  if 'A' ≤ c ∧ c ≤ 'Z' then some (c.toNat - 'A'.toNat)
  else if 'a' ≤ c ∧ c ≤ 'z' then some (c.toNat - 'a'.toNat + 26)
  else if '0' ≤ c ∧ c ≤ '9' then some (c.toNat - '0'.toNat + 52)
  else if c = '+' then some 62
  else if c = '/' then some 63
  else none

/-- The characters of a list of bytes. -/
def encode : List UInt8 → List Char
  | [] => []
  | [a] => [sextetChar (a.toNat / 4), sextetChar (a.toNat % 4 * 16), '=', '=']
  | [a, b] =>
    [sextetChar (a.toNat / 4), sextetChar (a.toNat % 4 * 16 + b.toNat / 16),
      sextetChar (b.toNat % 16 * 4), '=']
  | a :: b :: c :: rest =>
    sextetChar (a.toNat / 4) :: sextetChar (a.toNat % 4 * 16 + b.toNat / 16) ::
      sextetChar (b.toNat % 16 * 4 + c.toNat / 64) :: sextetChar (c.toNat % 64) :: encode rest

/-- The bytes that a text stands for. -/
def decode? : List Char → Option (List UInt8)
  | [] => some []
  | [a, b, '=', '='] => do
    let a ← sextet? a
    let b ← sextet? b
    if b % 16 = 0 then some [.ofNat (a * 4 + b / 16)] else none
  | [a, b, c, '='] => do
    let a ← sextet? a
    let b ← sextet? b
    let c ← sextet? c
    if c % 4 = 0 then
      some [.ofNat (a * 4 + b / 16), .ofNat (b % 16 * 16 + c / 4)]
    else
      none
  | a :: b :: c :: d :: rest => do
    let a ← sextet? a
    let b ← sextet? b
    let c ← sextet? c
    let d ← sextet? d
    let bytes ← decode? rest
    return .ofNat (a * 4 + b / 16) :: .ofNat (b % 16 * 16 + c / 4) :: .ofNat (c % 4 * 64 + d) ::
      bytes
  | _ => none

/-- The bytes of a text in UTF-8, in base64. -/
def ofText (s : String) : String := .ofList (encode s.toUTF8.data.toList)

/-- The text whose UTF-8 bytes a list holds, if it holds such. -/
def text? (bytes : List UInt8) : Option String := String.fromUTF8? ⟨bytes.toArray⟩

example : ofText "any carnal pleas" = "YW55IGNhcm5hbCBwbGVhcw==" := by decide

example : decode? "YW55IGNhcm5hbCBwbGVhcx==".toList = none := by decide

example : (decode? "w6k=".toList).bind text? = some "é" := by decide +kernel

end ClusterAdmission.Base64
