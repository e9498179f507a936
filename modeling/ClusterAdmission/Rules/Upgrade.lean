import ClusterAdmission.Rules
import ClusterAdmission.Version

/-!
# Changes of the engine version

A version never goes down. The major version of MySQL and PostgreSQL clusters is fixed; that of
MongoDB clusters goes up one by one. Empty versions leave the choice to the operator and are not
compared.
-/

namespace ClusterAdmission.Rules

/-- A text that must be a version. -/
def version (text : String) : Except Violation Version :=
  match Version.parse? text with
  | some v => .ok v
  | none => .error (.invalidVersion text)

/-- What is wrong with going up from one major version to another, if anything. -/
def majorStep (engine : EngineType) (from_ to_ : UInt64) : Option (String → String → Violation) :=
  match engine with
  | .pxc | .postgresql => some .majorUpgrade
  | .psmdb => if to_ = from_ + 1 then none else some .nonSequentialMajorUpgrade

/-- A change from the version `old` to the version `new`. -/
def upgrade (engine : EngineType) (old new : String) : Verdict :=
  if old = new ∨ old = "" ∨ new = "" then
    .ok ()
  else do
    let v ← version old
    let w ← version new
    require (!w.below v) (.downgrade old new)
    if v.major < w.major then
      match majorStep engine v.major w.major with
      | none => .ok ()
      | some violation => .error (violation old new)

end ClusterAdmission.Rules
