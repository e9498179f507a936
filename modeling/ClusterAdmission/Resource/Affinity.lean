import ClusterAdmission.Json

/-!
# Affinity of pods

Rules that tell on which nodes, and with which other pods, a pod may run: some must hold, others
only add a weight to the places where they do. A field that every rule has may still be left out;
the empty value stands in for it.
-/

namespace ClusterAdmission

/-- A condition on the values of a label or of a field. -/
structure Requirement where
  key : String
  operator : String
  values : Option (List String) := none
  deriving DecidableEq, Inhabited

/-- A condition on the labels of an object. -/
structure LabelSelector where
  matchExpressions : Option (List Requirement) := none
  matchLabels : Option (SortedMap String String) := none
  deriving DecidableEq, Inhabited

/-- A condition on a node. -/
structure NodeTerm where
  matchExpressions : Option (List Requirement) := none
  matchFields : Option (List Requirement) := none
  deriving DecidableEq, Inhabited

/-- A condition on a node that adds to its weight. -/
structure WeightedNodeTerm where
  preference : NodeTerm
  weight : Int32
  deriving DecidableEq, Inhabited

/-- Nodes of which one condition holds. -/
structure NodeSelector where
  terms : List NodeTerm
  deriving DecidableEq, Inhabited

/-- Rules on the nodes of a pod. -/
structure NodeAffinity where
  preferred : Option (List WeightedNodeTerm) := none
  required : Option NodeSelector := none
  deriving DecidableEq, Inhabited

/-- A condition on the pods of a part of the topology. -/
structure PodTerm where
  labelSelector : Option LabelSelector := none
  matchLabelKeys : Option (List String) := none
  mismatchLabelKeys : Option (List String) := none
  namespaceSelector : Option LabelSelector := none
  namespaces : Option (List String) := none
  topologyKey : String
  deriving DecidableEq, Inhabited

/-- A condition on pods that adds to a weight. -/
structure WeightedPodTerm where
  term : PodTerm
  weight : Int32
  deriving DecidableEq, Inhabited

/-- Rules on the pods that a pod runs with, or apart from. -/
structure PodRules where
  preferred : Option (List WeightedPodTerm) := none
  required : Option (List PodTerm) := none
  deriving DecidableEq, Inhabited

/-- The groups of affinity rules that are set. -/
structure Affinity where
  node : Option NodeAffinity := none
  pod : Option PodRules := none
  podAnti : Option PodRules := none
  deriving DecidableEq, Inhabited

/-! ## JSON -/

namespace Requirement

/-- The JSON object of a requirement. -/
def toJson (q : Requirement) : Json :=
  .ofFields
    [("key", some (.str q.key)),
      ("operator", some (.str q.operator)),
      ("values", q.values.map (Json.ofList Json.str))]

/-- Reads a requirement. -/
def ofJson? (j : Json) : Option Requirement := do
  let r ← j.object?
  let key ← r.orDefault "key" Json.string?
  let operator ← r.orDefault "operator" Json.string?
  let values ← r.optional "values" (Json.list? Json.string?)
  return { key, operator, values }

end Requirement

namespace LabelSelector

/-- The JSON object of a label selector. -/
def toJson (s : LabelSelector) : Json :=
  .ofFields
    [("matchExpressions", s.matchExpressions.map (Json.ofList Requirement.toJson)),
      ("matchLabels", s.matchLabels.map (Json.ofMap Json.str))]

/-- Reads a label selector. -/
def ofJson? (j : Json) : Option LabelSelector := do
  let r ← j.object?
  let matchExpressions ← r.optional "matchExpressions" (Json.list? Requirement.ofJson?)
  let matchLabels ← r.optional "matchLabels" (Json.map? Json.string?)
  return { matchExpressions, matchLabels }

end LabelSelector

namespace NodeTerm

/-- The JSON object of a condition on a node. -/
def toJson (t : NodeTerm) : Json :=
  .ofFields
    [("matchExpressions", t.matchExpressions.map (Json.ofList Requirement.toJson)),
      ("matchFields", t.matchFields.map (Json.ofList Requirement.toJson))]

/-- Reads a condition on a node. -/
def ofJson? (j : Json) : Option NodeTerm := do
  let r ← j.object?
  let matchExpressions ← r.optional "matchExpressions" (Json.list? Requirement.ofJson?)
  let matchFields ← r.optional "matchFields" (Json.list? Requirement.ofJson?)
  return { matchExpressions, matchFields }

end NodeTerm

namespace WeightedNodeTerm

/-- The JSON object of a weighted condition. -/
def toJson (t : WeightedNodeTerm) : Json :=
  .ofFields [("preference", some t.preference.toJson), ("weight", some (.int t.weight.toInt))]

/-- Reads a weighted condition. -/
def ofJson? (j : Json) : Option WeightedNodeTerm := do
  let r ← j.object?
  let preference ← r.orDefault "preference" NodeTerm.ofJson?
  let weight ← r.orDefault "weight" Json.int32?
  return { preference, weight }

end WeightedNodeTerm

namespace NodeSelector

/-- The JSON object of a node selector. -/
def toJson (s : NodeSelector) : Json :=
  .ofFields [("nodeSelectorTerms", some (.ofList NodeTerm.toJson s.terms))]

/-- Reads a node selector. -/
def ofJson? (j : Json) : Option NodeSelector := do
  let r ← j.object?
  let terms ← r.orDefault "nodeSelectorTerms" (Json.list? NodeTerm.ofJson?)
  return { terms }

end NodeSelector

namespace NodeAffinity

/-- The JSON object of rules on nodes. -/
def toJson (a : NodeAffinity) : Json :=
  .ofFields
    [("preferredDuringSchedulingIgnoredDuringExecution",
        a.preferred.map (Json.ofList WeightedNodeTerm.toJson)),
      ("requiredDuringSchedulingIgnoredDuringExecution", a.required.map NodeSelector.toJson)]

/-- Reads rules on nodes. -/
def ofJson? (j : Json) : Option NodeAffinity := do
  let r ← j.object?
  let preferred ← r.optional "preferredDuringSchedulingIgnoredDuringExecution"
    (Json.list? WeightedNodeTerm.ofJson?)
  let required ← r.optional "requiredDuringSchedulingIgnoredDuringExecution" NodeSelector.ofJson?
  return { preferred, required }

end NodeAffinity

namespace PodTerm

/-- The JSON object of a condition on pods. -/
def toJson (t : PodTerm) : Json :=
  .ofFields
    [("labelSelector", t.labelSelector.map LabelSelector.toJson),
      ("matchLabelKeys", t.matchLabelKeys.map (Json.ofList Json.str)),
      ("mismatchLabelKeys", t.mismatchLabelKeys.map (Json.ofList Json.str)),
      ("namespaceSelector", t.namespaceSelector.map LabelSelector.toJson),
      ("namespaces", t.namespaces.map (Json.ofList Json.str)),
      ("topologyKey", some (.str t.topologyKey))]

/-- Reads a condition on pods. -/
def ofJson? (j : Json) : Option PodTerm := do
  let r ← j.object?
  let labelSelector ← r.optional "labelSelector" LabelSelector.ofJson?
  let matchLabelKeys ← r.optional "matchLabelKeys" (Json.list? Json.string?)
  let mismatchLabelKeys ← r.optional "mismatchLabelKeys" (Json.list? Json.string?)
  let namespaceSelector ← r.optional "namespaceSelector" LabelSelector.ofJson?
  let namespaces ← r.optional "namespaces" (Json.list? Json.string?)
  let topologyKey ← r.orDefault "topologyKey" Json.string?
  return { labelSelector, matchLabelKeys, mismatchLabelKeys, namespaceSelector, namespaces,
           topologyKey }

end PodTerm

namespace WeightedPodTerm

/-- The JSON object of a weighted condition. -/
def toJson (t : WeightedPodTerm) : Json :=
  .ofFields [("podAffinityTerm", some t.term.toJson), ("weight", some (.int t.weight.toInt))]

/-- Reads a weighted condition. -/
def ofJson? (j : Json) : Option WeightedPodTerm := do
  let r ← j.object?
  let term ← r.orDefault "podAffinityTerm" PodTerm.ofJson?
  let weight ← r.orDefault "weight" Json.int32?
  return { term, weight }

end WeightedPodTerm

namespace PodRules

/-- The JSON object of rules on pods. -/
def toJson (p : PodRules) : Json :=
  .ofFields
    [("preferredDuringSchedulingIgnoredDuringExecution",
        p.preferred.map (Json.ofList WeightedPodTerm.toJson)),
      ("requiredDuringSchedulingIgnoredDuringExecution",
        p.required.map (Json.ofList PodTerm.toJson))]

/-- Reads rules on pods. -/
def ofJson? (j : Json) : Option PodRules := do
  let r ← j.object?
  let preferred ← r.optional "preferredDuringSchedulingIgnoredDuringExecution"
    (Json.list? WeightedPodTerm.ofJson?)
  let required ← r.optional "requiredDuringSchedulingIgnoredDuringExecution"
    (Json.list? PodTerm.ofJson?)
  return { preferred, required }

end PodRules

namespace Affinity

/-- Whether any group of rules is set. -/
def hasRules (a : Affinity) : Bool := a.node.isSome || a.pod.isSome || a.podAnti.isSome

/-- The JSON object of affinity rules. -/
def toJson (a : Affinity) : Json :=
  .ofFields
    [("nodeAffinity", a.node.map NodeAffinity.toJson),
      ("podAffinity", a.pod.map PodRules.toJson),
      ("podAntiAffinity", a.podAnti.map PodRules.toJson)]

/-- Reads affinity rules. -/
def ofJson? (j : Json) : Option Affinity := do
  let r ← j.object?
  let node ← r.optional "nodeAffinity" NodeAffinity.ofJson?
  let pod ← r.optional "podAffinity" PodRules.ofJson?
  let podAnti ← r.optional "podAntiAffinity" PodRules.ofJson?
  return { node, pod, podAnti }

end Affinity

end ClusterAdmission
