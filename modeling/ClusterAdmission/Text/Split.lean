/-!
# Cutting texts at a character

`splitOn` cuts at every occurrence, `cutFirst` and `cutLast` at one of them, `lines` at line ends.
-/

namespace ClusterAdmission.Text

/-- The parts between the characters that `sep` selects; one more part than there are of them. -/
def splitBy (sep : Char → Bool) : List Char → List (List Char)
  | [] => [[]]
  | c :: cs =>
    if sep c then
      [] :: splitBy sep cs
    else
      match splitBy sep cs with
      | [] => [[c]]
      | part :: parts => (c :: part) :: parts

/-- The parts between the occurrences of `c`. -/
def splitOn (c : Char) : List Char → List (List Char) := splitBy (· == c)

/-- What stands before and after the first `c`, if there is one. -/
def cutFirst (c : Char) : List Char → Option (List Char × List Char)
  | [] => none
  | d :: ds =>
    if d == c then some ([], ds)
    else (cutFirst c ds).map fun (before, after) => (d :: before, after)

/-- What stands before and after the last `c`, if there is one. -/
def cutLast (c : Char) : List Char → Option (List Char × List Char)
  | [] => none
  | d :: ds =>
    match cutLast c ds with
    | some (before, after) => some (d :: before, after)
    | none => if d == c then some ([], ds) else none

/-- The text after `start`, if it begins so. -/
def dropStart? : List Char → List Char → Option (List Char)
  | [], cs => some cs
  | _ :: _, [] => none
  | p :: ps, c :: cs => if p == c then dropStart? ps cs else none

/-- The text before `ending`, if it ends so. -/
def dropEnd? (ending cs : List Char) : Option (List Char) :=
  (dropStart? ending.reverse cs.reverse).map List.reverse

/-- Drops one carriage return at the end. -/
def dropReturn (cs : List Char) : List Char := (dropEnd? ['\r'] cs).getD cs

/-- The lines of a text: cut at line feeds, each without a carriage return before its line feed.
A line feed at the very end starts no further line. -/
def lines (cs : List Char) : List (List Char) :=
  let parts := splitOn '\n' cs
  let complete := parts.dropLast.map dropReturn
  match parts.getLast? with
  | some [] => complete
  | some rest => complete ++ [rest]
  | none => complete

/-- Joins parts with `c` between them. -/
def joinWith (c : Char) : List (List Char) → List Char
  | [] => []
  | [part] => part
  | part :: parts => part ++ c :: joinWith c parts

theorem splitBy_ne_nil (sep : Char → Bool) (cs : List Char) : splitBy sep cs ≠ [] := by
  cases cs with
  | nil => simp [splitBy]
  | cons c cs =>
    simp only [splitBy]
    split
    · simp
    · split <;> simp

/-- Joining the parts of a text gives the text. -/
theorem joinWith_splitOn (c : Char) (cs : List Char) : joinWith c (splitOn c cs) = cs := by
  induction cs with
  | nil => rfl
  | cons d ds ih =>
    have hne := splitBy_ne_nil (· == c) ds
    simp only [splitOn] at ih ⊢
    cases hsplit : splitBy (· == c) ds with
    | nil => exact absurd hsplit hne
    | cons part parts =>
      rw [hsplit] at ih
      simp only [splitBy, hsplit]
      split
      · next h =>
        rw [beq_iff_eq] at h
        simp [joinWith, ih, h]
      · cases parts with
        | nil => simpa [joinWith] using ih
        | cons q qs => simpa [joinWith] using ih

example : lines "a\r\nb\n\nc\r".toList = ["a".toList, "b".toList, [], "c\r".toList] := by decide

example : cutLast ':' "h:1:2".toList = some ("h:1".toList, "2".toList) := by decide

end ClusterAdmission.Text
