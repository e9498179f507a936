import ClusterAdmission.Text.Blank
import ClusterAdmission.Text.Pattern
import ClusterAdmission.Text.Split

/-!
# Syntax of names

Labels, bucket names, domains, addresses and qualified names, each as a yes-or-no question about a
text. Lengths count the bytes of UTF-8. All classes of characters are ASCII.
-/

namespace ClusterAdmission.Names

/-- The length of the longest label of a domain name. -/
def maxLabelLength : Nat := 63

/-- The length of the longest domain name. -/
def maxDomainLength : Nat := 253

/-- A lowercase letter. -/
def isLower (c : Char) : Bool := 'a' ≤ c && c ≤ 'z'

/-- A lowercase letter or a digit. -/
def isLowerOrDigit (c : Char) : Bool := isLower c || c.isDigit

/-- A letter or a digit. -/
def isLetterOrDigit (c : Char) : Bool := c.isAlpha || c.isDigit

/-- A character of a domain between its dots. -/
def isDomainChar (c : Char) : Bool := c == '-' || isLowerOrDigit c

/-- A character of a local name. -/
def isLocalChar (c : Char) : Bool := c == '-' || isLetterOrDigit c || c == '_' || c == '.'

open Text.Pattern in
/-- `[a-z0-9]([-a-z0-9]*[a-z0-9])?`, a part of a domain. -/
def partPattern : Text.Pattern :=
  seq (one isLowerOrDigit) (optional (seq (many (one isDomainChar)) (one isLowerOrDigit)))

/-- A label that starts with a letter, of at most 63 bytes. -/
def isLabel (name : String) : Bool :=
  name.utf8ByteSize ≤ maxLabelLength && partPattern.accepts name.toList &&
    (name.toList.head?.any isLower)

/-- The name of a bucket: 3 to 63 lowercase letters, digits, dots and hyphens. -/
def isBucket (name : String) : Bool :=
  let cs := name.toList
  3 ≤ cs.length && cs.length ≤ 63 && cs.all fun c => isLowerOrDigit c || c == '.' || c == '-'

open Text.Pattern in
/-- Parts of a domain with dots between them. -/
def domainPattern : Text.Pattern := seq partPattern (many (seq (char '.') partPattern))

/-- A domain: parts separated by dots, of at most 253 bytes in all. -/
def isDomain (name : String) : Bool :=
  name.utf8ByteSize ≤ maxDomainLength && domainPattern.accepts name.toList

/-- Whether a text is, after the scheme, an authority and an optional path. The authority starts
with a letter, a digit or a bracket and goes on to the first slash; no character is blank. -/
def isAddressRest : List Char → Bool
  | [] => false
  | c :: cs =>
    (isLetterOrDigit c || c == '[') &&
      (cs.takeWhile (· != '/')).all (fun c => !Text.isBlank c && c != '?' && c != '#') &&
      (cs.dropWhile (· != '/')).all fun c => !Text.isBlank c

/-- An absolute address with the scheme `http` or `https`. -/
def isUrl (url : String) : Bool :=
  match Text.dropStart? "https://".toList url.toList with
  | some rest => isAddressRest rest
  | none =>
    match Text.dropStart? "http://".toList url.toList with
    | some rest => isAddressRest rest
    | none => false

open Text.Pattern in
/-- `([A-Za-z0-9][-A-Za-z0-9_.]*)?[A-Za-z0-9]`, the part of a qualified name after the slash. -/
def localNamePattern : Text.Pattern :=
  seq (optional (seq (one isLetterOrDigit) (many (one isLocalChar)))) (one isLetterOrDigit)

/-- The part of a qualified name after the slash, of at most 63 bytes. -/
def isLocalName (name : String) : Bool :=
  name.utf8ByteSize ≤ maxLabelLength && localNamePattern.accepts name.toList

/-- A qualified name: a local name, or a domain, a slash and a local name. -/
def isQualified (key : String) : Bool :=
  match Text.cutFirst '/' key.toList with
  | some (domain, name) => isDomain (.ofList domain) && isLocalName (.ofList name)
  | none => isLocalName key

example : isLabel "a-1" ∧ ¬ isLabel "1a" ∧ ¬ isLabel "a-" := by decide

example : isUrl "http://[::1]:9000/a?b" ∧ ¬ isUrl "http://h?x" ∧ ¬ isUrl "ftp://h" := by decide

example : isQualified "a.b/c_d" ∧ ¬ isQualified "a_b/c" ∧ ¬ isQualified "a/b/c" := by decide

end ClusterAdmission.Names
