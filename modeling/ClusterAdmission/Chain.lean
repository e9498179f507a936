import ClusterAdmission.Api.State
import ClusterAdmission.Metrics
import ClusterAdmission.Operation.Perform
import ClusterAdmission.Operation.Policy

/-!
# Chains

A chain is a list of layers over an end, outermost layer first. The policy layer checks an operation
in full before it hands it on, unchanged; a noting layer writes down each creation of a cluster that
reaches it. At the end the operation is performed, or nothing serves it.
-/

namespace ClusterAdmission

/-- What is known of the caller. -/
structure Context where
  requestId : String := ""
  /-- The authenticated caller, if the host knows it. -/
  subject : Option String := none
  deriving DecidableEq, Repr, Inhabited

/-- A layer of a chain. -/
inductive Layer where
  | policy
  /-- Notes creations of clusters, and hands everything on. -/
  | noting (name : String)
  deriving DecidableEq, Repr

/-- The end of a chain. -/
inductive Terminal where
  /-- Performs operations against the API. -/
  | api
  /-- Serves nothing. -/
  | empty
  deriving DecidableEq, Repr

namespace Layer

/-- The name of the policy layer. -/
def policyName : String := "policy"

/-- The name of a layer. -/
def name : Layer → String
  | policy => policyName
  | noting name => name

/-- The layer of a name: every name but one is that of a noting layer. -/
def ofName (name : String) : Layer := if name = policyName then policy else noting name

end Layer

/-- What a noting layer writes down. -/
structure Note where
  layer : String
  context : Context
  deriving DecidableEq, Repr

/-- A chain. -/
structure Chain where
  layers : List Layer
  terminal : Terminal
  policies : Policies
  prober : Prober
  faults : List Api.Fault := []

namespace Chain

/-- The names of the layers, ending with that of the end. -/
def names (c : Chain) : List String := c.layers.map Layer.name ++ ["terminal"]

/-- What requests change. -/
structure State where
  store : Store
  metrics : Metrics := {}

/-- How a request ended: its answer, the state it left, and what it did on the way. -/
structure Reply (α : Type) where
  answer : Except Failure α
  state : State
  exchanges : List Api.Exchange := []
  probes : List ProbeCall := []
  notes : List Note := []

/-- The seconds that a check takes by the clock of a chain, which stands still. -/
def checkSeconds : Binary64 := .zero false

variable (c : Chain) (context : Context) (op : Operation)

/-- The server of a chain: the API under the faults of the moment. -/
def serve : Store → Api.Request → Store × Api.Response := Api.serveUnder c.faults

/-- The end of a chain. -/
def finish (s : State) : Reply op.Result :=
  match c.terminal with
  | .api =>
    let run := op.perform.run c.serve s.store
    { answer := run.answer, state := { s with store := run.state }, exchanges := run.exchanges }
  | .empty => { answer := .error (.unhandled op.name), state := s }

/-- Whether a layer writes an operation down, and what. -/
def noteOf (name : String) : List Note := if op.isCreateCluster then [⟨name, context⟩] else []

/-- Serves an operation through layers. -/
def through (s : State) : List Layer → Reply op.Result
  | [] => c.finish op s
  | .noting name :: rest =>
    let reply := through s rest
    { reply with notes := noteOf context op name ++ reply.notes }
  | .policy :: rest =>
    match op.policy c.policies with
    | none => through s rest
    | some check =>
      let view := View.through c.serve s.store
      let answer := check.run view c.prober
      let probes := check.probes view c.prober
      let s := { s with metrics := s.metrics.addAnswer op.name answer checkSeconds }
      match answer with
      | .error f => { answer := .error f, state := s, probes }
      | .ok () =>
        let reply := through s rest
        { reply with probes := probes ++ reply.probes }

/-- Serves an operation. -/
def handle (s : State) : Reply op.Result := c.through context op s c.layers

/-- The requests of a reply that can change the store. -/
def Reply.writes {α : Type} (r : Reply α) : List Api.Exchange :=
  r.exchanges.filter fun e => e.1.isWrite

/-- The chain in front of the API: policies, and a prober. -/
def standard (policies : Policies) (prober : Prober) : Chain where
  layers := [.policy]
  terminal := .api
  policies
  prober

end Chain

end ClusterAdmission
