import ClusterAdmission.Names
import ClusterAdmission.Violation

/-!
# Rules

A rule looks at a request alone and passes it or names the violation. Where a rule has several
parts, the first broken part counts.
-/

namespace ClusterAdmission

/-- The answer of a rule. -/
abbrev Verdict := Except Violation Unit

namespace Rules

/-- Passes if `ok` holds, and names the violation if not. -/
def require (ok : Bool) (v : Violation) : Verdict := if ok then .ok () else .error v

@[simp] theorem require_eq_ok {ok : Bool} {v : Violation} : require ok v = .ok () ↔ ok = true := by
  cases ok <;> simp [require]

@[simp] theorem require_eq_error {ok : Bool} {v w : Violation} :
    require ok v = .error w ↔ ok = false ∧ v = w := by
  cases ok <;> simp [require]

/-! ## Names -/

/-- The name of a resource is a label. -/
def label (name : String) : Verdict := require (Names.isLabel name) (.invalidName name)

/-- A name that others are made from is a label of at most `max` bytes. -/
def shortLabel (name : String) (max : Nat) : Verdict := do
  label name
  require (name.utf8ByteSize ≤ max) (.nameTooLong name max)

/-- The syntax of the names of buckets and containers. -/
def bucketName (name : String) : Verdict := require (Names.isBucket name) (.invalidBucketName name)

/-- The syntax of domains. -/
def domain (name : String) : Verdict := require (Names.isDomain name) (.invalidDomain name)

/-- The syntax of addresses. -/
def url (text : String) : Verdict := require (Names.isUrl text) (.invalidUrl text)

/-- The syntax of the keys of annotations. -/
def annotationKey (key : String) : Verdict :=
  require (Names.isQualified key) (.invalidAnnotationKey key)

end Rules

end ClusterAdmission
