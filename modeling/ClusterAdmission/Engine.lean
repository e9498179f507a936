import ClusterAdmission.Json

/-!
# Engines and proxies

The three database engines, the operators that run them, and the proxies that can stand in front of
each.
-/

namespace ClusterAdmission

/-- A database engine. -/
inductive EngineType where
  /-- MySQL. -/
  | pxc
  /-- MongoDB. -/
  | psmdb
  /-- PostgreSQL. -/
  | postgresql
  deriving DecidableEq, Repr, Inhabited

/-- A connection proxy. -/
inductive ProxyType where
  | haproxy
  | proxysql
  | pgbouncer
  | mongos
  deriving DecidableEq, Repr

namespace EngineType

/-- The name of an engine. -/
def name : EngineType → String
  | pxc => "pxc"
  | psmdb => "psmdb"
  | postgresql => "postgresql"

/-- The engines by name. -/
def table : List (String × EngineType) := [pxc, psmdb, postgresql].map fun e => (e.name, e)

/-- The operator that runs an engine; the engine resource has its name. -/
def operatorName : EngineType → String
  | pxc => "percona-xtradb-cluster-operator"
  | psmdb => "percona-server-mongodb-operator"
  | postgresql => "percona-postgresql-operator"

/-- The state that the operator reports for a completed backup. -/
def succeededState : EngineType → String
  | pxc | postgresql => "Succeeded"
  | psmdb => "ready"

/-- The seconds between two uploads of logs. -/
def uploadInterval : EngineType → Int
  | pxc | postgresql => 60
  | psmdb => 600

/-- Whether a proxy can stand in front of an engine. -/
def supportsProxy : EngineType → ProxyType → Bool
  | pxc, .haproxy | pxc, .proxysql | postgresql, .pgbouncer | psmdb, .mongos => true
  | _, _ => false

/-- The JSON text of an engine. -/
def toJson (e : EngineType) : Json := .str e.name

/-- Reads an engine. -/
def ofJson? (j : Json) : Option EngineType := j.tag? table

theorem ofJson?_toJson (e : EngineType) : ofJson? e.toJson = some e := by
  cases e <;> decide

end EngineType

namespace ProxyType

/-- The name of a proxy. -/
def name : ProxyType → String
  | haproxy => "haproxy"
  | proxysql => "proxysql"
  | pgbouncer => "pgbouncer"
  | mongos => "mongos"

/-- The proxies by name. -/
def table : List (String × ProxyType) :=
  [haproxy, proxysql, pgbouncer, mongos].map fun p => (p.name, p)

/-- The JSON text of a proxy. -/
def toJson (p : ProxyType) : Json := .str p.name

/-- Reads a proxy. -/
def ofJson? (j : Json) : Option ProxyType := j.tag? table

theorem ofJson?_toJson (p : ProxyType) : ofJson? p.toJson = some p := by
  cases p <;> decide

end ProxyType

end ClusterAdmission
