import ClusterAdmission.Operation.Perform
import ClusterAdmission.Proofs.Api.Changes

/-!
# What operations change

An operation writes one resource at most, and for each operation there is one way in which it may
(`Operation.effect`). While it is performed, under any faults, each of its requests leaves the
resources as they are, or brings that effect about while they are still those of the start
(`Operation.perform_advances`). Secrets are not looked at here.
-/

namespace ClusterAdmission

open Api (Program serveUnder resourcePlace createdPlace)

/-- What happens to the one resource that an operation writes. -/
structure Effect where
  place : Place
  /-- Whether `new` can be there afterwards where `old` was. -/
  leaves (old new : Option Json) : Prop

namespace Effect

variable {k : Kind}

/-- A resource comes to a free place. -/
def create (r : Resource k) : Effect where
  place := createdPlace r
  leaves old new := old = none ∧ new = some r.toJson

/-- A resource takes the place of another. -/
def replace (space name : String) (r : Resource k) : Effect where
  place := resourcePlace k space name
  leaves old new := old.isSome ∧ new = some r.toJson

/-- A resource is changed. -/
def update (space name : String) (change : Resource k → Resource k) : Effect where
  place := resourcePlace k space name
  leaves old new := ∃ j current, old = some j ∧ Resource.ofJson? k j = some current ∧
    new = some (change current).toJson

/-- A resource is gone. -/
def delete (k : Kind) (space name : String) : Effect where
  place := resourcePlace k space name
  leaves _ new := new = none

/-- The effect has come about between two stores, and no other resource has changed. -/
structure Happens (e : Effect) (s t : Store) : Prop where
  leaves : e.leaves (s.get? e.place) (t.get? e.place)
  others : ∀ p : Place, p.collection ≠ .secrets → p ≠ e.place → t.get? p = s.get? p

/-- One request of an operation that starts in `s` leaves the resources as they are, or brings the
effect about while they are still those of the start. -/
def Advances (e : Effect) (s u v : Store) : Prop :=
  u.SameResources v ∨ s.SameResources u ∧ e.Happens s v

variable {e : Effect} {s t u v : Store}

theorem Happens.before (he : e.place.collection ≠ .secrets) (hst : s.SameResources t)
    (htu : e.Happens t u) : e.Happens s u where
  leaves := by
    rw [← hst e.place he]
    exact htu.leaves
  others p hp hne := by rw [htu.others p hp hne, hst p hp]

theorem Happens.after (he : e.place.collection ≠ .secrets) (hst : e.Happens s t)
    (htu : t.SameResources u) : e.Happens s u where
  leaves := by
    rw [htu e.place he]
    exact hst.leaves
  others p hp hne := by rw [htu p hp, hst.others p hp hne]

theorem Advances.before (he : e.place.collection ≠ .secrets) (hst : s.SameResources t)
    (h : e.Advances t u v) : e.Advances s u v := by
  rcases h with hsame | ⟨htu, hhappens⟩
  · exact .inl hsame
  · exact .inr ⟨hst.trans htu, hhappens.before he hst⟩

/-- As long as the resources stay the same, nothing has to come about. -/
theorem isChain_advances_of_same {states : List Store}
    (h : ∀ t ∈ states, u.SameResources t) : states.IsChain (e.Advances s) := by
  refine List.Pairwise.isChain (List.pairwise_of_forall_mem_list ?_)
  intro t ht v hv
  exact .inl ((h t ht).symm.trans (h v hv))

end Effect

namespace Operation

/-- What an operation does to resources, if it writes any. -/
def effect : Operation → Option Effect
  | createCluster cluster => some (.create cluster)
  | updateCluster cluster => some (.replace cluster.space cluster.name cluster)
  | deleteCluster space name => some (.delete .databaseCluster space name)
  | getCluster .. | listClusters _ | listStorages _ => none
  | createBackup backup => some (.create backup)
  | createRestore restore => some (.create restore)
  | createStorage request => some (.create (SecretLink.storage.filled request.storage))
  | updateStorage update => some (.update update.space update.name update.apply)
  | deleteStorage space name => some (.delete .backupStorage space name)
  | createMonitoring request => some (.create (SecretLink.monitoring.filled request.config))
  | updateMonitoring update => some (.update update.space update.name update.apply)
  | deleteMonitoring space name => some (.delete .monitoringConfig space name)
  | createSchedulingPolicy policy => some (.create policy)
  | updateSchedulingPolicy policy => some (.replace "" policy.name policy)
  | deleteSchedulingPolicy name => some (.delete .podSchedulingPolicy "" name)
  | createLoadBalancer config => some (.create config)
  | updateLoadBalancer config => some (.replace "" config.name config)
  | deleteLoadBalancer name => some (.delete .loadBalancerConfig "" name)
  | createSplitHorizon request => some (.create (SecretLink.splitHorizon.filled request.config))
  | updateSplitHorizon update => some (.update update.space update.name update.apply)

end Operation

/-! ## Programs and their effects -/

section Programs

variable {faults : List Api.Fault} {s t : Store} {k : Kind}

theorem createResource_advances (r : Resource k) (s : Store) :
    ((Api.createResource r).states (serveUnder faults) s).IsChain
      ((Effect.create r).Advances s) := by
  refine Program.isChain_of_length_le (Api.length_states_send_bind_le _ _ _) fun t h => ?_
  rcases Api.createResource_change h with rfl | ⟨hfree, rfl⟩
  · exact .inl (.refl _)
  · exact .inr ⟨.refl s, ⟨hfree, SortedMap.get?_insert_self _ _ _⟩,
      fun p _ hne => SortedMap.get?_insert_of_ne _ _ hne⟩

theorem replaceResource_advances (space name : String) (r : Resource k) (s : Store) :
    ((Api.replaceResource space name r).states (serveUnder faults) s).IsChain
      ((Effect.replace space name r).Advances s) := by
  refine Program.isChain_of_length_le (Api.length_states_send_bind_le _ _ _) fun t h => ?_
  rcases Api.replaceResource_change h with rfl | ⟨hthere, rfl⟩
  · exact .inl (.refl _)
  · exact .inr ⟨.refl s, ⟨hthere, SortedMap.get?_insert_self _ _ _⟩,
      fun p _ hne => SortedMap.get?_insert_of_ne _ _ hne⟩

theorem deleteResource_advances (k : Kind) (space name : String) (s : Store) :
    ((Api.deleteResource k space name).states (serveUnder faults) s).IsChain
      ((Effect.delete k space name).Advances s) := by
  refine Program.isChain_of_length_le (Api.length_states_send_bind_le _ _ _) fun t h => ?_
  rcases Api.deleteResource_change h with rfl | rfl
  · exact .inl (.refl _)
  · exact .inr ⟨.refl s, SortedMap.get?_erase_self _ _,
      fun p _ hne => SortedMap.get?_erase_of_ne _ hne⟩

theorem getResource_advances (space name : String) (e : Effect) (s : Store) :
    ((Api.getResource k space name).states (serveUnder faults) s).IsChain (e.Advances s) :=
  (Api.readOnly_getResource k space name).isChain_states (fun _ _ => Api.serveUnder_of_read)
    (.inl (.refl s))

namespace SecretLink

variable (link : SecretLink k)

/-- Whatever happens to the secret, the resource is created or nothing is. -/
theorem create_advances (r : Resource k) (data : SecretData) (s : Store) :
    ((link.create r data).states (serveUnder faults) s).IsChain
      ((Effect.create (link.filled r)).Advances s) := by
  have hplace : (Effect.create (link.filled r)).place.collection ≠ .secrets := nofun
  refine Program.isChain_states_bind
    (Effect.isChain_advances_of_same fun _ ht => Api.createSecret_change ht) ?_
  intro _ _
  refine Program.isChain_states_bind ?_ ?_
  · rw [Program.states_attempt]
    refine (createResource_advances _ _).imp fun _ _ h => h.before hplace ?_
    exact Api.createSecret_change (Program.state_mem_states _ s)
  · intro created _
    -- The secret is removed after a refusal, and also where a stored resource is not read back.
    cases created with
    | ok stored => exact List.isChain_singleton _
    | error f =>
      refine Program.isChain_states_bind ?_ fun _ _ => List.isChain_singleton _
      rw [Program.states_attempt]
      exact Effect.isChain_advances_of_same fun _ ht => Api.deleteSecret_change ht

/-- The resource that is replaced is the one that was read. -/
theorem update_advances (space name : String) (data? : Resource k → Option SecretData)
    (apply : Resource k → Resource k) (s : Store) :
    ((link.update space name data? apply).states (serveUnder faults) s).IsChain
      ((Effect.update space name apply).Advances s) := by
  have hplace : (Effect.update space name apply).place.collection ≠ .secrets :=
    Api.resourcePlace_ne_secrets
  refine Program.isChain_states_bind (getResource_advances space name _ s) ?_
  intro current hcurrent
  rw [(Api.readOnly_getResource k space name).state_run fun _ _ => Api.serveUnder_of_read]
  obtain ⟨j, hj, hread⟩ := Api.getResource_ok hcurrent
  -- Whether or not the secret is patched first, the resource that was read is still there.
  have hreplace {v : Store} (hsv : s.SameResources v) :
      ((Api.replaceResource space name (apply current)).states (serveUnder faults) v).IsChain
        ((Effect.update space name apply).Advances s) := by
    refine Program.isChain_of_length_le (Api.length_states_send_bind_le _ _ _) fun w h => ?_
    rcases Api.replaceResource_change h with rfl | ⟨-, rfl⟩
    · exact .inl (.refl _)
    · refine .inr ⟨hsv, Effect.Happens.before hplace hsv ⟨⟨j, current, ?_, hread, ?_⟩, ?_⟩⟩
      · rw [← hj]
        exact hsv _ hplace
      · exact SortedMap.get?_insert_self _ _ _
      · exact fun p _ hne => SortedMap.get?_insert_of_ne _ _ hne
  cases data? current with
  | none => exact hreplace (.refl s)
  | some data =>
    refine Program.isChain_states_bind
      (Effect.isChain_advances_of_same fun _ ht => Api.patchSecret_change ht) fun _ _ => ?_
    exact hreplace (Api.patchSecret_change (Program.state_mem_states _ s))

theorem delete_advances (space name : String) (s : Store) :
    ((link.delete space name).states (serveUnder faults) s).IsChain
      ((Effect.delete k space name).Advances s) := by
  refine Program.isChain_states_bind (getResource_advances space name _ s) ?_
  intro current _
  rw [(Api.readOnly_getResource k space name).state_run fun _ _ => Api.serveUnder_of_read]
  refine Program.isChain_states_bind (deleteResource_advances k space name s) fun _ _ => ?_
  exact Effect.isChain_advances_of_same fun _ ht => Api.deleteSecret_change ht

/-- Without faults, a resource that can be read is removed. -/
theorem run_delete {space name : String} {current : Resource k}
    (h : ((Api.getResource k space name).run Api.serve s).answer = .ok current) :
    Store.SameResources (s.erase (resourcePlace k space name))
      ((link.delete space name).run Api.serve s).state := by
  have hread : ((Api.getResource k space name).run Api.serve s).state = s :=
    (Api.readOnly_getResource k space name).state_run (fun _ _ => Api.serve_of_read) s
  obtain ⟨hanswer, herased⟩ := Api.run_deleteResource h
  simp only [delete, Program.run_bind, h, hread, hanswer, herased]
  generalize s.erase (resourcePlace k space name) = erased
  generalize link.secretName current.spec = secret
  have hlast : ((Api.deleteSecret space secret).run Api.serve erased).state ∈
      (Api.deleteSecret space secret).states (serveUnder []) erased :=
    Program.state_mem_states _ erased
  exact Api.deleteSecret_change hlast

end SecretLink

namespace Operation

/-- What the effect of an operation advances, if it has any. -/
def Advances (op : Operation) (s u v : Store) : Prop :=
  u.SameResources v ∨ s.SameResources u ∧ ∃ e, op.effect = some e ∧ e.Happens s v

/-- While an operation is performed, each request leaves the resources as they are or brings the
effect of the operation about. -/
theorem perform_advances (op : Operation) (s : Store) :
    (op.perform.states (serveUnder faults) s).IsChain (op.Advances s) := by
  have hsome {e : Effect} {states : List Store} (he : op.effect = some e)
      (h : states.IsChain (e.Advances s)) : states.IsChain (op.Advances s) :=
    h.imp fun u v huv => huv.imp_right fun ⟨hsu, hhappens⟩ => ⟨hsu, e, he, hhappens⟩
  have hread {α : Type} {p : Program α} (hp : p.ReadOnly) :
      (p.states (serveUnder faults) s).IsChain (op.Advances s) :=
    hp.isChain_states (fun _ _ => Api.serveUnder_of_read) (.inl (.refl s))
  cases op with
  | getCluster => exact hread (Api.readOnly_getResource _ _ _)
  | listClusters | listStorages => exact hread (Api.readOnly_listResources _ _)
  | createCluster | createBackup | createRestore | createSchedulingPolicy | createLoadBalancer =>
    exact hsome rfl (createResource_advances _ s)
  | updateCluster | updateSchedulingPolicy | updateLoadBalancer =>
    exact hsome rfl (replaceResource_advances _ _ _ s)
  | deleteCluster | deleteSchedulingPolicy | deleteLoadBalancer =>
    exact hsome rfl (deleteResource_advances _ _ _ s)
  | createStorage => exact hsome rfl (SecretLink.storage.create_advances _ _ s)
  | createMonitoring => exact hsome rfl (SecretLink.monitoring.create_advances _ _ s)
  | createSplitHorizon => exact hsome rfl (SecretLink.splitHorizon.create_advances _ _ s)
  | updateStorage => exact hsome rfl (SecretLink.storage.update_advances _ _ _ _ s)
  | updateMonitoring => exact hsome rfl (SecretLink.monitoring.update_advances _ _ _ _ s)
  | updateSplitHorizon => exact hsome rfl (SecretLink.splitHorizon.update_advances _ _ _ _ s)
  | deleteStorage => exact hsome rfl (SecretLink.storage.delete_advances _ _ s)
  | deleteMonitoring => exact hsome rfl (SecretLink.monitoring.delete_advances _ _ s)

theorem effect_place_ne_secrets {op : Operation} {e : Effect} (he : op.effect = some e) :
    e.place.collection ≠ .secrets := by
  cases op with
  | getCluster | listClusters | listStorages => cases he
  | _ =>
    cases he
    exact nofun

end Operation

end Programs

end ClusterAdmission
