import ClusterAdmission.Proofs.Api.Concurrent
import ClusterAdmission.Proofs.Resource.MetadataCodec
import ClusterAdmission.Proofs.Secret

/-!
# An API that keeps versions

The store behind an API with optimistic concurrency: whatever is written gets a new version in its
metadata, and no object is replaced by a body of another version (`Versioned.optimistic`). A new
object has the version `1`, and each write after that appends a `0`.
-/

namespace ClusterAdmission

namespace Api.Versioned

/-- The members of an object; there are none of any other value. -/
def membersOf : Json → Json.Members
  | .obj ms => ms
  | _ => []

/-- An object under a version. -/
def stamp (version : String) (object : Json) : Json :=
  let metadata := ((object.get? "metadata").map membersOf).getD []
  .obj (Entries.insert "metadata" (.obj (Entries.insert "resourceVersion" (.str version) metadata))
    (membersOf object))

/-- The version of what is written over an object. -/
def nextVersion (old : Json) : String := Store.versionOf old ++ "0"

/-- The refusal of a body whose version is not that of the stored object. -/
def modified (p : Place) : Response :=
  .refused 409 (p.collection.plural ++ " \"" ++ p.name ++ "\" has been modified")

/-- Answers one request. -/
def serve (s : Store) : Request → Store × Response
  | .create c space body => Api.serve s (.create c space (stamp "1" body))
  | .replace p body =>
    match s.get? p with
    | some old =>
      if Store.versionOf body = Store.versionOf old then put s p (stamp (nextVersion old) body)
      else (s, modified p)
    | none => (s, notFound p)
  | .patch p body =>
    match s.get? p with
    | some old => put s p (stamp (nextVersion old) (old.mergePatch body))
    | none => (s, notFound p)
  | r => Api.serve s r

/-! ## Objects under a version -/

theorem get?_metadata_kept_stamp (c : Collection) (version : String) (object : Json) :
    ∃ metadata, (c.kept (stamp version object)).get? "metadata" =
      some (.obj (Entries.insert "resourceVersion" (.str version) metadata)) := by
  refine ⟨((object.get? "metadata").map membersOf).getD [], ?_⟩
  cases c with
  | secrets =>
    rw [Collection.kept, stamp, Secret.get?_sealTexts (by decide) (by decide)]
    exact Entries.get?_insert_self _ _ _
  | resources k => exact Entries.get?_insert_self _ _ _

theorem versionOf_kept_stamp (c : Collection) (version : String) (object : Json) :
    Store.versionOf (c.kept (stamp version object)) = version := by
  obtain ⟨metadata, hmetadata⟩ := get?_metadata_kept_stamp c version object
  rw [Store.versionOf, Store.metadataText, hmetadata, Option.bind_some, Json.get?,
    Entries.get?_insert_self]
  rfl

theorem nextVersion_ne (old : Json) : nextVersion old ≠ Store.versionOf old := by
  intro heq
  have hlength := congrArg String.length heq
  rw [nextVersion, String.length_append] at hlength
  have hzero : "0".length = 1 := rfl
  omega

/-- A field of a record after a write of one. -/
theorem get?_record_insert (ms : Json.Members) (key key' : String) (j : Json) :
    (⟨Entries.insert key j ms⟩ : Json.Record).get? key' =
      if key' = key then some j else (⟨ms⟩ : Json.Record).get? key' := by
  split
  · next heq => exact heq ▸ Entries.get?_insert_self key j ms
  · next hne => exact Entries.get?_insert_of_ne j ms hne

theorem record_membersOf_ofFields (fields : List (String × Option Json)) :
    (⟨membersOf (.ofFields fields)⟩ : Json.Record) = .ofFields fields := rfl

/-- Encoded metadata can be read with another version. -/
theorem metadata_insert_version (m : Metadata) (version : String) :
    Metadata.ofJson? (.obj (Entries.insert "resourceVersion" (.str version) (membersOf m.toJson))) =
      some { m.cut with resourceVersion := some version } := by
  have hversion : Json.Record.readOptional Json.string? (some (.str version)) =
      some (some version) := rfl
  rw [Metadata.ofJson?, Json.object?, Option.bind_eq_bind, Option.bind_some]
  simp [get?_record_insert, record_membersOf_ofFields, hversion, Metadata.toJson, Metadata.cut]

/-- A resource is read under another version. -/
theorem ofJson?_stamp {k : Kind} (hstatus : ∀ fields, k.status? fields = some none)
    (version : String) (r : Resource k) :
    Resource.ofJson? k (stamp version r.toJson) =
      some { metadata := { r.metadata.cut with resourceVersion := some version }
             spec := r.spec } := by
  have hread : Metadata.ofJson? (.obj (Entries.insert "resourceVersion" (.str version)
      (membersOf r.metadata.toJson))) =
        some { r.metadata.cut with resourceVersion := some version } :=
    metadata_insert_version r.metadata version
  have hmetadata : r.toJson.get? "metadata" = some r.metadata.toJson := by
    simp [Resource.toJson, Json.get?_ofFields]
  have hspec : (⟨membersOf r.toJson⟩ : Json.Record).get? "spec" = some (k.specJson r.spec) := by
    change r.toJson.get? "spec" = _
    simp [Resource.toJson, Json.get?_ofFields]
  simp [Resource.ofJson?, stamp, Json.record?, get?_record_insert, hstatus, hmetadata, hread, hspec,
    Kind.spec?_specJson]

/-! ## Laws -/

/-- A body replaces an object of its own version, or is refused. -/
theorem serve_replace (s : Store) (p : Place) (body : Json) :
    (∃ old, s.get? p = some old ∧ Store.versionOf body = Store.versionOf old ∧
      serve s (.replace p body) = put s p (stamp (nextVersion old) body)) ∨
    ∃ code message, serve s (.replace p body) = (s, .refused code message) := by
  rw [serve]
  split
  · next old hold =>
    split
    · next hsame => exact .inl ⟨old, hold, hsame, rfl⟩
    · exact .inr ⟨_, _, rfl⟩
  · exact .inr ⟨_, _, rfl⟩

/-- A patch is laid over what is there, or refused. -/
theorem serve_patch (s : Store) (p : Place) (body : Json) :
    (∃ old, s.get? p = some old ∧
      serve s (.patch p body) = put s p (stamp (nextVersion old) (old.mergePatch body))) ∨
    ∃ code message, serve s (.patch p body) = (s, .refused code message) := by
  rw [serve]
  split
  · next old hold => exact .inl ⟨old, hold, rfl⟩
  · exact .inr ⟨_, _, rfl⟩

theorem refused_of_isRefused {response : Response} (h : response.isRefused) :
    ∃ code message, response = .refused code message := by
  cases response with
  | refused code message => exact ⟨code, message, rfl⟩
  | object | objects | deleted => cases h

theorem answers : Answers serve where
  read {s r} hread := by
    cases r with
    | get | list => exact serve_of_read rfl
    | create | replace | patch | delete => cases hread
  refused {s r} hrefused := by
    cases r with
    | get | list | create | delete =>
      obtain ⟨code, message, heq⟩ := refused_of_isRefused hrefused
      exact serve_of_refused heq
    | replace p body =>
      rcases serve_replace s p body with ⟨old, -, -, heq⟩ | ⟨code, message, heq⟩
      · rw [heq] at hrefused
        cases hrefused
      · rw [heq]
    | patch p body =>
      rcases serve_patch s p body with ⟨old, -, heq⟩ | ⟨code, message, heq⟩
      · rw [heq] at hrefused
        cases hrefused
      · rw [heq]
  replaced {s k p r} hp hstatus := by
    rcases serve_replace s p r.toJson with ⟨old, -, -, heq⟩ | ⟨code, message, heq⟩
    · refine .inr ⟨stamp (nextVersion old) r.toJson, _, ?_, ofJson?_stamp hstatus _ r⟩
      rw [heq, put, hp]
      rfl
    · rw [heq]
      exact .inl rfl

theorem version_put (s : Store) (p : Place) (old object : Json) :
    ∃ new, (put s p (stamp (nextVersion old) object)).1.get? p = some new ∧
      Store.versionOf new ≠ Store.versionOf old := by
  refine ⟨_, SortedMap.get?_insert_self _ _ _, ?_⟩
  rw [versionOf_kept_stamp]
  exact nextVersion_ne old

/-- The server is one with optimistic concurrency. -/
theorem optimistic : Optimistic serve where
  toAnswers := answers
  fresh {s r p body old} hr haccepted hold := by
    have hput : ∃ object, serve s r = put s p (stamp (nextVersion old) object) := by
      rcases hr with rfl | rfl
      · rcases serve_replace s p body with ⟨old', hold', -, heq⟩ | ⟨code, message, heq⟩
        · rw [hold] at hold'
          exact ⟨_, Option.some.inj hold' ▸ heq⟩
        · rw [heq] at haccepted
          cases haccepted
      · rcases serve_patch s p body with ⟨old', hold', heq⟩ | ⟨code, message, heq⟩
        · rw [hold] at hold'
          obtain rfl := Option.some.inj hold'
          exact ⟨_, heq⟩
        · rw [heq] at haccepted
          cases haccepted
    obtain ⟨object, heq⟩ := hput
    rw [heq]
    exact version_put s p old object
  stale {s p body old} hold hother := by
    have hmodified : serve s (.replace p body) = (s, modified p) := by
      simp only [serve, hold, if_neg hother]
    exact ⟨_, congrArg Prod.snd hmodified⟩

end Api.Versioned

end ClusterAdmission
