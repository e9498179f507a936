/-!
# The bytes of a text

Texts are encoded in UTF-8. Positions count bytes, and a text can be sliced at the positions between
its characters, not within one.
-/

namespace ClusterAdmission.Text

/-- The bytes of a text. -/
def bytes (cs : List Char) : List UInt8 := cs.flatMap String.utf8EncodeChar

/-- Whether a byte is a digit of ASCII. -/
def isDigitByte (b : UInt8) : Bool := 48 ≤ b && b ≤ 57

/-- Whether a character can start with a byte. -/
def startsChar (b : UInt8) : Bool := b < 128 || 192 ≤ b

/-- Whether a position lies between two characters or at an end. -/
def isBoundary (i : Nat) (bs : List UInt8) : Bool :=
  match bs[i]? with
  | some b => i = 0 || startsChar b
  | none => i = bs.length

/-- The bytes between two positions, if no character lies across one of them. -/
def slice? (lo hi : Nat) (bs : List UInt8) : Option (List UInt8) :=
  if lo ≤ hi && isBoundary lo bs && isBoundary hi bs then some ((bs.take hi).drop lo) else none

/-- Whether bytes are those of a layout, in which a digit stands for any digit. -/
def fitsLayout (layout bs : List UInt8) : Bool :=
  bs.length = layout.length &&
    (bs.zip layout).all fun (b, l) => if isDigitByte l then isDigitByte b else b = l

example : slice? 1 3 (bytes "aéb".toList) = some (bytes ['é']) := by decide

example : slice? 2 3 (bytes "aéb".toList) = none := by decide

example : fitsLayout (bytes "2006-01".toList) (bytes "1999-12".toList) := by decide

end ClusterAdmission.Text
