import ClusterAdmission.Text.Blank
import ClusterAdmission.Text.Numeral
import ClusterAdmission.Text.Split

/-!
# Semantic versions

A version has three core numbers, a pre-release and a build, as in SemVer 2.0.0. Engines and
operators write it more loosely: blanks around it, one `v` in front, and a core of one or two
numbers, to which zeros are added. Versions are compared by precedence: the core first, then the
pre-release, of which none is higher than any; the build does not count.
-/

namespace ClusterAdmission

/-- A character of a pre-release or build identifier. -/
def isIdentifierChar (c : Char) : Bool := c.isAlpha || c.isDigit || c == '-'

/-- An identifier of a pre-release: a number, or a word that is not all digits. -/
inductive PreIdentifier where
  | number (n : Nat)
  | word (cs : List Char)
  deriving DecidableEq, Repr

/-- A semantic version. -/
structure Version where
  major : UInt64
  minor : UInt64
  patch : UInt64
  /-- The identifiers of the pre-release; none for a release. -/
  pre : List PreIdentifier
  /-- The identifiers of the build. -/
  build : List (List Char)
  deriving DecidableEq, Repr

namespace PreIdentifier

/-- The text of an identifier. -/
def text : PreIdentifier → List Char
  | number n => Text.digits n
  | word cs => cs

/-- Numbers are below words; numbers compare by value, words by their characters. -/
def order : PreIdentifier → PreIdentifier → Ordering
  | number m, number n => compare m n
  | number _, word _ => .lt
  | word _, number _ => .gt
  | word cs, word ds => compare (String.ofList cs) (String.ofList ds)

/-- Reads an identifier; a number has no superfluous zeros in front. -/
def ofText? (cs : List Char) : Option PreIdentifier :=
  if cs.isEmpty || !cs.all isIdentifierChar then none
  else if cs.all Char.isDigit then
    if 1 < cs.length && cs.head? == some '0' then none else (Text.natural? cs).map number
  else some (word cs)

end PreIdentifier

namespace Version

/-! ## Precedence -/

/-- Compares the identifiers of two pre-releases one by one; a longer list is higher. -/
def identifierOrder : List PreIdentifier → List PreIdentifier → Ordering
  | [], [] => .eq
  | [], _ :: _ => .lt
  | _ :: _, [] => .gt
  | i :: is, j :: js => (i.order j).then (identifierOrder is js)

/-- Compares two pre-releases; having none is highest. -/
def preOrder : List PreIdentifier → List PreIdentifier → Ordering
  | [], [] => .eq
  | [], _ :: _ => .gt
  | _ :: _, [] => .lt
  | is, js => identifierOrder is js

/-- Compares two versions by precedence. -/
def precedence (v w : Version) : Ordering :=
  (compare v.major w.major).then <| (compare v.minor w.minor).then <|
    (compare v.patch w.patch).then (preOrder v.pre w.pre)

/-- Whether `v` is below `w` in precedence. -/
def below (v w : Version) : Bool := v.precedence w == .lt

/-! ## Text -/

/-- The text of the pre-release. -/
def preText (v : Version) : String :=
  .ofList (Text.joinWith '.' (v.pre.map PreIdentifier.text))

/-- The text of the build. -/
def buildText (v : Version) : String := .ofList (Text.joinWith '.' v.build)

/-- The text of the core of a version, number by number. -/
def coreText (numbers : List UInt64) : List Char :=
  Text.joinWith '.' (numbers.map fun n => Text.digits n.toNat)

/-- A list of identifiers behind the character that starts it; nothing if there are none. -/
def partText (start : Char) (identifiers : List (List Char)) : List Char :=
  if identifiers.isEmpty then [] else start :: Text.joinWith '.' identifiers

/-- The pre-release and the build. -/
def suffixText (pre : List PreIdentifier) (build : List (List Char)) : List Char :=
  partText '-' (pre.map PreIdentifier.text) ++ partText '+' build

/-- The text of a version: three numbers, then the pre-release and the build if there are any. -/
def text (v : Version) : List Char :=
  coreText [v.major, v.minor, v.patch] ++ suffixText v.pre v.build

/-- A number of the core: at most `2^64 - 1`, no superfluous zeros in front. -/
def coreNumber? (cs : List Char) : Option UInt64 :=
  if 1 < cs.length && cs.head? == some '0' then none
  else ((Text.natural? cs).filter (· < UInt64.size)).map UInt64.ofNat

/-- An identifier of the build. -/
def buildIdentifier? (cs : List Char) : Option (List Char) :=
  if cs.isEmpty || !cs.all isIdentifierChar then none else some cs

/-- The identifiers of a pre-release or build behind the character that starts it; none without
it. -/
def identifiers? {α : Type} (start : Char) (read : List Char → Option α) :
    List Char → Option (List α)
  | [] => some []
  | c :: cs => if c = start then (Text.splitOn '.' cs).mapM read else none

/-- The pre-release and build of a suffix. The build starts at the first `+`. -/
def suffix? (cs : List Char) : Option (List PreIdentifier × List (List Char)) := do
  let pre ← identifiers? '-' PreIdentifier.ofText? (cs.takeWhile (· != '+'))
  let build ← identifiers? '+' buildIdentifier? (cs.dropWhile (· != '+'))
  return (pre, build)

/-- The numbers of a core, of which there must be three. -/
def core? (cs : List Char) : Option (UInt64 × UInt64 × UInt64) := do
  match ← (Text.splitOn '.' cs).mapM coreNumber? with
  | [a, b, c] => return (a, b, c)
  | _ => none

/-- Whether a character starts the suffix of a version. -/
def startsSuffix (c : Char) : Bool := c == '-' || c == '+'

/-- The text in front of the suffix. -/
def coreOf (cs : List Char) : List Char := cs.takeWhile fun c => !startsSuffix c

/-- The text from the first character on that starts a suffix. -/
def suffixOf (cs : List Char) : List Char := cs.dropWhile fun c => !startsSuffix c

/-- Reads a semantic version, with three numbers and nothing around it. -/
def semantic? (cs : List Char) : Option Version := do
  let (major, minor, patch) ← core? (coreOf cs)
  let (pre, build) ← suffix? (suffixOf cs)
  return { major, minor, patch, pre, build }

/-- The text without the blanks around it and without one `v` in front. -/
def bare (text : String) : List Char :=
  match Text.trim text.toList with
  | 'v' :: cs => cs
  | cs => cs

/-- A core with zeros added to it if it has one number or two, by the count of its points. -/
def completedCore (core : List Char) : List Char :=
  match core.count '.' with
  | 0 => core ++ ['.', '0', '.', '0']
  | 1 => core ++ ['.', '0']
  | _ => core

/-- The text with the zeros that its core lacks in front of the suffix. -/
def completed (cs : List Char) : List Char := completedCore (coreOf cs) ++ suffixOf cs

/-- Reads the version of an engine or operator. -/
def parse? (text : String) : Option Version := semantic? (completed (bare text))

/-- Whether a version is at least a minimum; a text that is no version never is. -/
def atLeast (version minimum : String) : Bool :=
  match parse? version, parse? minimum with
  | some v, some w => !v.below w
  | _, _ => false

example : (parse? " v8.0-24.5 ").map Version.text = some "8.0.0-24.5".toList := by decide

example : parse? "1.2.3.4" = none ∧ parse? "01.2" = none ∧ parse? "1-01" = none := by decide

example : atLeast "8.0.36" "8.0.36-28" ∧ ¬ atLeast "8.0.36-9" "8.0.36-28" := by decide

end Version

end ClusterAdmission
