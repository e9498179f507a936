import ClusterAdmission.Engine

/-!
# Installed engines

A database engine resource describes an installed operator and the engine versions that it can run.
The platform maintains it; nothing here writes it.
-/

namespace ClusterAdmission

/-- Whether a version of a component can be used. -/
inductive ComponentStatus where
  | recommended
  | available
  | unavailable
  | unsupported
  deriving DecidableEq, Repr, Inhabited

/-- A version of a component. -/
structure Component where
  status : ComponentStatus := .available
  imagePath : String := ""
  deriving DecidableEq, Inhabited

/-- The versions of the components of an engine. -/
structure Versions where
  engine : SortedMap String Component := .empty
  backup : SortedMap String Component := .empty
  proxy : SortedMap String (SortedMap String Component) := .empty
  deriving DecidableEq, Inhabited

/-- Whether an operator is installed. -/
inductive EngineState where
  | notInstalled
  | installing
  | installed
  | upgrading
  deriving DecidableEq, Repr, Inhabited

/-- What administrators ask of an engine. -/
structure DatabaseEngineSpec where
  engine : EngineType
  /-- The versions that may be requested; none allows every available one. -/
  allowedVersions : List String := []
  deriving DecidableEq, Inhabited

/-- What is known of an engine. -/
structure DatabaseEngineStatus where
  status : EngineState := .notInstalled
  availableVersions : Versions := {}
  operatorVersion : String := ""
  deriving DecidableEq, Inhabited

namespace ComponentStatus

/-- The name of a component status. -/
def name : ComponentStatus → String
  | recommended => "recommended"
  | available => "available"
  | unavailable => "unavailable"
  | unsupported => "unsupported"

/-- The component statuses by name. -/
def table : List (String × ComponentStatus) :=
  [recommended, available, unavailable, unsupported].map fun s => (s.name, s)

end ComponentStatus

namespace EngineState

/-- The name of an engine state. -/
def name : EngineState → String
  | notInstalled => "not installed"
  | installing => "installing"
  | installed => "installed"
  | upgrading => "upgrading"

/-- The engine states by name. -/
def table : List (String × EngineState) :=
  [notInstalled, installing, installed, upgrading].map fun s => (s.name, s)

end EngineState

namespace Component

/-- The JSON object of a component. -/
def toJson (c : Component) : Json :=
  .ofFields [("imagePath", some (.str c.imagePath)), ("status", some (.str c.status.name))]

/-- Reads a component. -/
def ofJson? (j : Json) : Option Component := do
  let r ← j.record? ["status", "imagePath"]
  let status ← r.withDefault "status" (Json.tag? ComponentStatus.table) .available
  let imagePath ← r.withDefault "imagePath" Json.string? ""
  return { status, imagePath }

end Component

namespace Versions

/-- The JSON object of versions. -/
def toJson (v : Versions) : Json :=
  .ofFields
    [("backup", Json.nonemptyMap Component.toJson v.backup),
      ("engine", Json.nonemptyMap Component.toJson v.engine),
      ("proxy", Json.nonemptyMap (Json.ofMap Component.toJson) v.proxy)]

/-- Reads versions. -/
def ofJson? (j : Json) : Option Versions := do
  let r ← j.record? ["engine", "backup", "proxy"]
  let engine ← r.withDefault "engine" (Json.map? Component.ofJson?) .empty
  let backup ← r.withDefault "backup" (Json.map? Component.ofJson?) .empty
  let proxy ← r.withDefault "proxy" (Json.map? (Json.map? Component.ofJson?)) .empty
  return { engine, backup, proxy }

end Versions

namespace DatabaseEngineSpec

/-- The JSON object of what administrators ask of an engine. -/
def toJson (s : DatabaseEngineSpec) : Json :=
  .ofFields
    [("allowedVersions", Json.nonemptyList Json.str s.allowedVersions),
      ("type", some s.engine.toJson)]

/-- Reads what administrators ask of an engine. -/
def ofJson? (j : Json) : Option DatabaseEngineSpec := do
  let r ← j.record? ["type", "allowedVersions"]
  let engine ← r.required "type" EngineType.ofJson?
  let allowedVersions ← r.withDefault "allowedVersions" (Json.list? Json.string?) []
  return { engine, allowedVersions }

end DatabaseEngineSpec

namespace DatabaseEngineStatus

/-- The JSON object of what is known of an engine. -/
def toJson (s : DatabaseEngineStatus) : Json :=
  .ofFields
    [("availableVersions", some s.availableVersions.toJson),
      ("operatorVersion", some (.str s.operatorVersion)),
      ("status", some (.str s.status.name))]

/-- Reads what is known of an engine. -/
def ofJson? (j : Json) : Option DatabaseEngineStatus := do
  let r ← j.record? ["status", "availableVersions", "operatorVersion"]
  let status ← r.withDefault "status" (Json.tag? EngineState.table) .notInstalled
  let availableVersions ← r.withDefault "availableVersions" Versions.ofJson? {}
  let operatorVersion ← r.withDefault "operatorVersion" Json.string? ""
  return { status, availableVersions, operatorVersion }

end DatabaseEngineStatus

end ClusterAdmission
