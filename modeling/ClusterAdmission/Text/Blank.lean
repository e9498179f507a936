/-!
# Blank characters

The characters of the Unicode property `White_Space`, and the trimming of texts by it. The control
characters U+001C to U+001F, the zero width space U+200B and the mark U+FEFF are not blank.
-/

namespace ClusterAdmission.Text

/-- The ranges of code points with the property `White_Space`, in increasing order. -/
def blankRanges : List (Nat × Nat) :=
  [(0x9, 0xD), (0x20, 0x20), (0x85, 0x85), (0xA0, 0xA0), (0x1680, 0x1680), (0x2000, 0x200A),
    (0x2028, 0x2029), (0x202F, 0x202F), (0x205F, 0x205F), (0x3000, 0x3000)]

/-- Whether a character has the property `White_Space`. -/
def isBlank (c : Char) : Bool :=
  blankRanges.any fun (lo, hi) => lo ≤ c.toNat && c.toNat ≤ hi

/-- Drops the blanks at the start. -/
def trimStart (cs : List Char) : List Char := cs.dropWhile isBlank

/-- Drops the blanks at the end. -/
def trimEnd (cs : List Char) : List Char := (cs.reverse.dropWhile isBlank).reverse

/-- Drops the blanks at both ends. -/
def trim (cs : List Char) : List Char := trimEnd (trimStart cs)

/-- A text without the blanks at its ends. -/
def trimmed (s : String) : String := .ofList (trim s.toList)

/-- The trimmed text, if anything is left of it. -/
def nonblank? (s : Option String) : Option String :=
  (s.map trimmed).filter fun t => !t.isEmpty

/-- Visible characters of ASCII are not blank. -/
theorem isBlank_of_visible {c : Char} (h : 0x21 ≤ c.toNat) (h' : c.toNat ≤ 0x7E) :
    isBlank c = false := by
  simp only [isBlank, blankRanges, List.any_cons, List.any_nil, Bool.or_false, Bool.or_eq_false_iff,
    Bool.and_eq_false_iff, decide_eq_false_iff_not]
  omega

example : (blankRanges.map fun (lo, hi) => hi + 1 - lo).sum = 25 := by decide

example : trimmed "\u00a0 a b\u3000\n" = "a b" := by decide

example : trimmed "\u200ba" = "\u200ba" := by decide

end ClusterAdmission.Text
