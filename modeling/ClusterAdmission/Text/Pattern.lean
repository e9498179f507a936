/-!
# Patterns

Regular expressions over characters, for the syntax of names. A text is matched as a whole, one
character after another: what a pattern leaves to be matched behind a character is a pattern again.
-/

namespace ClusterAdmission.Text

/-- A regular expression. Its letters are classes of characters. -/
inductive Pattern where
  /-- Nothing, not even the empty text. -/
  | never
  /-- The empty text. -/
  | empty
  /-- One character of a class. -/
  | one (p : Char → Bool)
  /-- One pattern behind the other. -/
  | seq (p q : Pattern)
  /-- One pattern or the other. -/
  | either (p q : Pattern)
  /-- A pattern any number of times. -/
  | many (p : Pattern)

namespace Pattern

/-- A character. -/
def char (c : Char) : Pattern := one (· == c)

/-- A pattern or the empty text. -/
def optional (p : Pattern) : Pattern := either p empty

/-- Whether a pattern matches the empty text. -/
def nullable : Pattern → Bool
  | never => false
  | empty => true
  | one _ => false
  | seq p q => p.nullable && q.nullable
  | either p q => p.nullable || q.nullable
  | many _ => true

/-- One pattern behind the other, written shorter where the first is `never` or `empty`. -/
def followedBy : Pattern → Pattern → Pattern
  | never, _ => never
  | empty, q => q
  | p, q => seq p q

/-- One pattern or the other, written shorter where one is `never`. -/
def orElse : Pattern → Pattern → Pattern
  | never, q => q
  | p, never => p
  | p, q => either p q

/-- What is left to be matched behind a character. -/
def after (c : Char) : Pattern → Pattern
  | never => never
  | empty => never
  | one p => if p c then empty else never
  | seq p q =>
    if p.nullable then ((p.after c).followedBy q).orElse (q.after c)
    else (p.after c).followedBy q
  | either p q => (p.after c).orElse (q.after c)
  | many p => (p.after c).followedBy (many p)

/-- Whether a pattern matches a text as a whole. -/
def accepts (p : Pattern) : List Char → Bool
  | [] => p.nullable
  | c :: cs => (p.after c).accepts cs

end Pattern

end ClusterAdmission.Text
