import ClusterAdmission.Json
import ClusterAdmission.Time.Timestamp

/-!
# Metadata of resources

The metadata that the platform keeps with every resource. Every field may be missing; those that are
there are written back. Instants are written cut to the whole second.
-/

namespace ClusterAdmission

namespace Timestamp

/-- The JSON text of an instant, cut to the whole second. -/
def toJson (t : Timestamp) : Json := .str t.wholeText

/-- Reads an instant. -/
def ofJson? (j : Json) : Option Timestamp := j.string?.bind parse?

end Timestamp

/-- The fields of an object that one writer looks after: any value but `null`, which stands for no
fields at all. -/
structure FieldSet where
  json : Json
  isNull_eq : json.isNull = false
  deriving DecidableEq

/-- A record of what one writer looks after. -/
structure ManagedFields where
  apiVersion : Option String := none
  fieldsType : Option String := none
  fields : Option FieldSet := none
  manager : Option String := none
  operation : Option String := none
  subresource : Option String := none
  time : Option Timestamp := none
  deriving DecidableEq

/-- An object that another one belongs to. -/
structure OwnerReference where
  apiVersion : String
  blockOwnerDeletion : Option Bool := none
  controller : Option Bool := none
  kind : String
  name : String
  uid : String
  deriving DecidableEq, Inhabited

/-- The metadata of a resource. -/
structure Metadata where
  name : Option String := none
  /-- The namespace of the resource. -/
  space : Option String := none
  generateName : Option String := none
  labels : Option (SortedMap String String) := none
  annotations : Option (SortedMap String String) := none
  uid : Option String := none
  resourceVersion : Option String := none
  generation : Option Int64 := none
  finalizers : Option (List String) := none
  creationTimestamp : Option Timestamp := none
  deletionTimestamp : Option Timestamp := none
  deletionGracePeriodSeconds : Option Int64 := none
  ownerReferences : Option (List OwnerReference) := none
  managedFields : Option (List ManagedFields) := none
  selfLink : Option String := none
  deriving DecidableEq, Inhabited

namespace FieldSet

/-- The JSON value of a set of fields. -/
def toJson (f : FieldSet) : Json := f.json

/-- Reads a set of fields. -/
def ofJson? (j : Json) : Option FieldSet := if h : j.isNull = false then some ⟨j, h⟩ else none

end FieldSet

namespace ManagedFields

/-- The JSON object of the record. -/
def toJson (e : ManagedFields) : Json :=
  .ofFields
    [("apiVersion", e.apiVersion.map Json.str),
      ("fieldsType", e.fieldsType.map Json.str),
      ("fieldsV1", e.fields.map FieldSet.toJson),
      ("manager", e.manager.map Json.str),
      ("operation", e.operation.map Json.str),
      ("subresource", e.subresource.map Json.str),
      ("time", e.time.map Timestamp.toJson)]

/-- Reads such a record. -/
def ofJson? (j : Json) : Option ManagedFields := do
  let r ← j.object?
  let apiVersion ← r.optional "apiVersion" Json.string?
  let fieldsType ← r.optional "fieldsType" Json.string?
  let fields ← r.optional "fieldsV1" FieldSet.ofJson?
  let manager ← r.optional "manager" Json.string?
  let operation ← r.optional "operation" Json.string?
  let subresource ← r.optional "subresource" Json.string?
  let time ← r.optional "time" Timestamp.ofJson?
  return { apiVersion, fieldsType, fields, manager, operation, subresource, time }

end ManagedFields

namespace OwnerReference

/-- The JSON object of an owner. -/
def toJson (o : OwnerReference) : Json :=
  .ofFields
    [("apiVersion", some (.str o.apiVersion)),
      ("blockOwnerDeletion", o.blockOwnerDeletion.map Json.bool),
      ("controller", o.controller.map Json.bool),
      ("kind", some (.str o.kind)),
      ("name", some (.str o.name)),
      ("uid", some (.str o.uid))]

/-- Reads an owner. -/
def ofJson? (j : Json) : Option OwnerReference := do
  let r ← j.object?
  let apiVersion ← r.orDefault "apiVersion" Json.string?
  let blockOwnerDeletion ← r.optional "blockOwnerDeletion" Json.bool?
  let controller ← r.optional "controller" Json.bool?
  let kind ← r.orDefault "kind" Json.string?
  let name ← r.orDefault "name" Json.string?
  let uid ← r.orDefault "uid" Json.string?
  return { apiVersion, blockOwnerDeletion, controller, kind, name, uid }

end OwnerReference

namespace Metadata

/-- The name by which a resource is known: its name, else the stem that names are made from. -/
def anyName (m : Metadata) : String := (m.name.or m.generateName).getD ""

/-- The namespace of a resource, empty if it has none. -/
def spaceOrEmpty (m : Metadata) : String := m.space.getD ""

/-- Whether the label `key` is there with the value `true`. -/
def isMarked (m : Metadata) (key : String) : Bool :=
  (m.labels.bind fun labels => labels.get? key) == some "true"

/-- The JSON object of the metadata. -/
def toJson (m : Metadata) : Json :=
  .ofFields
    [("annotations", m.annotations.map (Json.ofMap Json.str)),
      ("creationTimestamp", m.creationTimestamp.map Timestamp.toJson),
      ("deletionGracePeriodSeconds", m.deletionGracePeriodSeconds.map fun n => Json.int n.toInt),
      ("deletionTimestamp", m.deletionTimestamp.map Timestamp.toJson),
      ("finalizers", m.finalizers.map (Json.ofList Json.str)),
      ("generateName", m.generateName.map Json.str),
      ("generation", m.generation.map fun n => Json.int n.toInt),
      ("labels", m.labels.map (Json.ofMap Json.str)),
      ("managedFields", m.managedFields.map (Json.ofList ManagedFields.toJson)),
      ("name", m.name.map Json.str),
      ("namespace", m.space.map Json.str),
      ("ownerReferences", m.ownerReferences.map (Json.ofList OwnerReference.toJson)),
      ("resourceVersion", m.resourceVersion.map Json.str),
      ("selfLink", m.selfLink.map Json.str),
      ("uid", m.uid.map Json.str)]

/-- Reads metadata, which must be an object. -/
def ofJson? (j : Json) : Option Metadata := do
  let fields ← j.object?
  let annotations ← fields.optional "annotations" (Json.map? Json.string?)
  let creationTimestamp ← fields.optional "creationTimestamp" Timestamp.ofJson?
  let deletionGracePeriodSeconds ← fields.optional "deletionGracePeriodSeconds" Json.int64?
  let deletionTimestamp ← fields.optional "deletionTimestamp" Timestamp.ofJson?
  let finalizers ← fields.optional "finalizers" (Json.list? Json.string?)
  let generateName ← fields.optional "generateName" Json.string?
  let generation ← fields.optional "generation" Json.int64?
  let labels ← fields.optional "labels" (Json.map? Json.string?)
  let managedFields ← fields.optional "managedFields" (Json.list? ManagedFields.ofJson?)
  let name ← fields.optional "name" Json.string?
  let space ← fields.optional "namespace" Json.string?
  let ownerReferences ← fields.optional "ownerReferences" (Json.list? OwnerReference.ofJson?)
  let resourceVersion ← fields.optional "resourceVersion" Json.string?
  let selfLink ← fields.optional "selfLink" Json.string?
  let uid ← fields.optional "uid" Json.string?
  return { name, space, generateName, labels, annotations, uid, resourceVersion, generation,
           finalizers, creationTimestamp, deletionTimestamp, deletionGracePeriodSeconds,
           ownerReferences, managedFields, selfLink }

end Metadata

end ClusterAdmission
