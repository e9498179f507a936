import ClusterAdmission.Credentials
import ClusterAdmission.Rules

/-!
# Rules for certificates

A certificate and a private key are each a single block in PEM: a line that begins it with a label,
lines of base64, and a line that ends it with the same label.
-/

namespace ClusterAdmission.Rules

/-- A character of the payload of a block. -/
def isPayloadChar (c : Char) : Bool :=
  Names.isLetterOrDigit c || c == '+' || c == '/' || c == '='

/-- A line of the payload of a block. -/
def isPayloadLine (line : List Char) : Bool := !line.isEmpty && line.all isPayloadChar

/-- The dashes around the label of a line. -/
def dashes : List Char := "-----".toList

/-- The label that a line begins a block with. -/
def beginLabel? (line : List Char) : Option (List Char) :=
  (((Text.dropStart? ("-----BEGIN ".toList) line).bind (Text.dropEnd? dashes))).filter fun label =>
    !label.isEmpty

/-- The line that ends a block. -/
def endLine (label : List Char) : List Char := "-----END ".toList ++ label ++ dashes

/-- Whether lines are a block. -/
def isBlock : List (List Char) → Bool
  | [] => false
  | first :: body =>
    match beginLabel? first, body.getLast? with
    | some label, some last =>
      last = endLine label && !body.dropLast.isEmpty && body.dropLast.all isPayloadLine
    | _, _ => false

/-- Whether a text is a block. Blanks around the text and at the ends of lines do not count. -/
def isPem (text : String) : Bool :=
  isBlock ((Text.lines (Text.trim text.toList)).map Text.trimEnd)

/-- The certificate and the private key are blocks. -/
def certificateAuthority (ca : CertificateAuthority) : Verdict := do
  require (isPem ca.cert) (.invalidPem .certificate)
  require (isPem ca.key) (.invalidPem .privateKey)

example : isPem " -----BEGIN A B-----\r\nQQ== \r\n-----END A B-----\n" := by decide

example : ¬ isPem "-----BEGIN A-----\n-----END A-----" := by decide

end ClusterAdmission.Rules
