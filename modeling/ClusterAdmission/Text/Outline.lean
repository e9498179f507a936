/-!
# Outlines of values for logs

An outline shows the structure of a value: records with the names of their fields, optional values,
lists and maps. Texts stand in double quotes, with escapes for quotes, backslashes and control
characters.
-/

namespace ClusterAdmission.Text

/-- The structure of a value. -/
inductive Outline where
  /-- A text in quotes. -/
  | text (s : String)
  /-- A word as it is. -/
  | word (s : String)
  | absent
  | present (o : Outline)
  | list (elements : List Outline)
  | map (entries : List (String × Outline))
  | record (name : String) (fields : List (String × Outline))
  deriving Inhabited

/-- A character inside quotes. Besides quotes and backslashes, the control characters below 160 are
escaped. Every other character stands as it is, also one that shows nothing or combines with the
one before it (U+200B, U+0301); logs that write such characters as numbers too differ from this
text, but not in which texts can be told apart. -/
def outlineChar (c : Char) : List Char :=
  if c = '"' ∨ c = '\\' then ['\\', c]
  else if c = '\n' then ['\\', 'n']
  else if c = '\r' then ['\\', 'r']
  else if c = '\t' then ['\\', 't']
  else if c = '\x00' then ['\\', '0']
  else if c.toNat < 0x20 ∨ 0x7F ≤ c.toNat ∧ c.toNat < 0xA0 then
    '\\' :: 'u' :: '{' :: Nat.toDigits 16 c.toNat ++ ['}']
  else [c]

/-- A text in quotes. -/
def outlineText (s : String) : String :=
  .ofList ('"' :: s.toList.flatMap outlineChar ++ ['"'])

namespace Outline

/-- An optional value. -/
def ofOption {α : Type} (outline : α → Outline) : Option α → Outline
  | none => absent
  | some a => present (outline a)

/-- A truth value. -/
def ofBool (b : Bool) : Outline := word (if b then "true" else "false")

mutual

/-- The text of an outline. -/
def render : Outline → String
  | text s => outlineText s
  | word s => s
  | absent => "None"
  | present o => "Some(" ++ render o ++ ")"
  | list os => "[" ++ renderElements os ++ "]"
  | map es => "\x7b" ++ renderEntries es ++ "\x7d"
  | record name [] => name
  | record name fs => name ++ " \x7b " ++ renderFields fs ++ " \x7d"

/-- The elements of a list with commas between them. -/
def renderElements : List Outline → String
  | [] => ""
  | [o] => render o
  | o :: os => render o ++ ", " ++ renderElements os

/-- The entries of a map with commas between them. -/
def renderEntries : List (String × Outline) → String
  | [] => ""
  | [(key, o)] => outlineText key ++ ": " ++ render o
  | (key, o) :: es => outlineText key ++ ": " ++ render o ++ ", " ++ renderEntries es

/-- The fields of a record with commas between them. -/
def renderFields : List (String × Outline) → String
  | [] => ""
  | [(name, o)] => name ++ ": " ++ render o
  | (name, o) :: fs => name ++ ": " ++ render o ++ ", " ++ renderFields fs

end

end Outline

end ClusterAdmission.Text
