import ClusterAdmission.Binary64.Shortest
import ClusterAdmission.Json

/-!
# JSON texts

A value is written without spaces. Characters outside of ASCII are written as the escapes of their
UTF-16 units, so the text is ASCII throughout.
-/

namespace ClusterAdmission.Json

/-- A hexadecimal number of four digits. -/
def hex4 (n : Nat) : List Char :=
  let ds := Nat.toDigits 16 n
  List.replicate (4 - ds.length) '0' ++ ds

/-- The escape of a character by its UTF-16 units. -/
def unitEscape (c : Char) : List Char :=
  let n := c.toNat
  if n < 0x10000 then
    '\\' :: 'u' :: hex4 n
  else
    let m := n - 0x10000
    '\\' :: 'u' :: hex4 (0xD800 + m / 0x400) ++ '\\' :: 'u' :: hex4 (0xDC00 + m % 0x400)

/-- A character inside a string. -/
def escape (c : Char) : List Char :=
  if c = '"' then ['\\', '"']
  else if c = '\\' then ['\\', '\\']
  else if 0x20 ≤ c.toNat ∧ c.toNat < 0x7F then [c]
  else unitEscape c

/-- A string in quotes. -/
def quoted (s : String) : String := .ofList ('"' :: s.toList.flatMap escape ++ ['"'])

/-- A finite number as a decimal that reads back; numbers without a value are `null`. -/
def realText : Binary64 → String
  | .finite s m e =>
    let d := Binary64.shortest m e
    let sign := if s then "-" else ""
    sign ++ toString d.digits ++ "e" ++ toString d.exponent
  | _ => "null"

mutual

/-- The text of a value. -/
def render : Json → String
  | .null => "null"
  | .bool b => if b then "true" else "false"
  | .int n => toString n
  | .real x => realText x
  | .str s => quoted s
  | .arr xs => "[" ++ renderElements xs ++ "]"
  | .obj ms => "\x7b" ++ renderMembers ms ++ "\x7d"

/-- The elements of an array, with commas between them. -/
def renderElements : List Json → String
  | [] => ""
  | [x] => render x
  | x :: xs => render x ++ "," ++ renderElements xs

/-- The members of an object, with commas between them. -/
def renderMembers : Members → String
  | [] => ""
  | [(key, value)] => quoted key ++ ":" ++ render value
  | (key, value) :: ms => quoted key ++ ":" ++ render value ++ "," ++ renderMembers ms

end

example : (Json.obj [("k", .arr [.int (-1), .str "é"])]).render =
    "\x7b\"k\":[-1,\"\\u00e9\"]\x7d" := by decide +kernel

end ClusterAdmission.Json
