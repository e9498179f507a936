import ClusterAdmission.Kind
import ClusterAdmission.Secret

/-!
# The store

The API keeps each object as JSON at its place: a collection, a namespace and a name. Places are
ordered by these three, and listings follow that order.
-/

namespace ClusterAdmission

/-- The place of an object. What lives in no namespace has the empty one. -/
structure Place where
  collection : Collection
  /-- The namespace. -/
  space : String
  name : String
  deriving DecidableEq, Repr

namespace Place

/-- Places in order of collection, namespace and name. -/
instance : Ord Place :=
  ⟨compareLex (compareOn fun p => p.collection.plural)
    (compareLex (compareOn space) (compareOn name))⟩

instance : Std.TransOrd Place :=
  inferInstanceAs
    (Std.TransCmp
      (compareLex (compareOn fun p : Place => p.collection.plural)
        (compareLex (compareOn space) (compareOn name))))

theorem eq_of_compare {a b : Place} (h : compare a b = .eq) : a = b := by
  obtain ⟨c, s, n⟩ := a
  obtain ⟨d, t, m⟩ := b
  have h : (compare c.plural d.plural).then ((compare s t).then (compare n m)) = .eq := h
  simp only [Ordering.then_eq_eq] at h
  obtain ⟨hc, hs, hn⟩ := h
  have hc := Collection.plural_injective (Std.LawfulEqOrd.eq_of_compare hc)
  have hs := Std.LawfulEqOrd.eq_of_compare hs
  have hn := Std.LawfulEqOrd.eq_of_compare hn
  subst hc hs hn
  rfl

instance : Std.LawfulEqOrd Place where
  eq_of_compare := eq_of_compare

end Place

/-- The objects that the API keeps, by place. -/
abbrev Store := SortedMap Place Json

namespace Collection

/-- The namespace part of a place in a collection. -/
def spaceIn (c : Collection) (space : String) : String := if c.isNamespaced then space else ""

/-- An object as a collection keeps it. -/
def kept : Collection → Json → Json
  | secrets, object => Secret.sealTexts object
  | resources _, object => object

end Collection

namespace Store

/-- A text of the metadata of an object, empty if there is none. -/
def metadataText (object : Json) (key : String) : String :=
  (((object.get? "metadata").bind fun m => m.get? key).bind Json.string?).getD ""

/-- The name under which an object is created. -/
def nameOf (object : Json) : String := metadataText object "name"

/-- The place of an object that carries its kind. -/
def placeOf? (object : Json) : Option Place := do
  let kind ← object.get? "kind"
  let collection ← kind.string?.bind Collection.ofKindName?
  return ⟨collection, collection.spaceIn (metadataText object "namespace"), nameOf object⟩

/-- Keeps an object at a place. -/
def keep (s : Store) (p : Place) (object : Json) : Store := s.insert p (p.collection.kept object)

/-- Keeps an object at the place that it names. -/
def load? (s : Store) (object : Json) : Option Store :=
  (placeOf? object).map fun p => s.keep p object

/-- A store of objects; of two at one place the later one stays. -/
def ofObjects? (objects : List Json) : Option Store := objects.foldlM load? .empty

/-- Whether a place is in a collection and a namespace, or in any namespace. -/
def isListed (c : Collection) (space : Option String) (p : Place) : Bool :=
  p.collection = c && space.all fun s => s = p.space

/-- The objects of a collection in a namespace, or in all. -/
def listed (s : Store) (c : Collection) (space : Option String) : List Json :=
  (s.entries.filter fun e => isListed c space e.1).map (·.2)

end Store

end ClusterAdmission
