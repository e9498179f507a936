import ClusterAdmission.Proofs.Json.Edits
import ClusterAdmission.Proofs.Operation.WithSecret
import ClusterAdmission.Proofs.Resource.Codec

/-!
# Updates touch only what they name

What an update of single fields supplies is read as edits of the stored object and of its secret
(`StorageUpdate.edits`, `StorageUpdate.secretEdits` and their like). An update that succeeds makes
these edits and leaves the rest of the store as it is, also inside of the two objects
(`Operation.updates_edit_only_named`).
-/

namespace ClusterAdmission

open Api (Program serveUnder resourcePlace secretPlace)
open Json (Edit Edited)
open Json.Edit (within supplied under)

/-- Every object is one that the platform writes: a resource is encoded, and a secret has no texts
that wait to be moved into its data. -/
structure Store.IsEncoded (s : Store) : Prop where
  resource {k : Kind} {space name : String} {j : Json} :
    s.get? (resourcePlace k space name) = some j → ∃ r : Resource k, j = r.toJson
  secret {space name : String} {j : Json} : s.get? (secretPlace space name) = some j →
    ∃ ms, j = .obj ms ∧ (Json.obj ms).get? "stringData" = none

theorem Api.resourcePlace_ne_secretPlace {k : Kind} {space name space' name' : String} :
    resourcePlace k space name ≠ secretPlace space' name' := nofun

namespace Store.IsEncoded

theorem empty : Store.IsEncoded .empty := ⟨nofun, nofun⟩

variable {s : Store}

theorem insert_resource (h : s.IsEncoded) {k : Kind} (space name : String) (r : Resource k) :
    Store.IsEncoded (s.insert (resourcePlace k space name) r.toJson) where
  resource {k' space' name' j} hj := by
    by_cases heq : resourcePlace k' space' name' = resourcePlace k space name
    · obtain rfl : k' = k := (Collection.resources.inj (congrArg Place.collection heq))
      rw [heq, SortedMap.get?_insert_self] at hj
      exact ⟨r, (Option.some.inj hj).symm⟩
    · rw [SortedMap.get?_insert_of_ne s _ heq] at hj
      exact h.resource hj
  secret hj := by
    rw [SortedMap.get?_insert_of_ne s _ Api.resourcePlace_ne_secretPlace.symm] at hj
    exact h.secret hj

theorem insert_secret (h : s.IsEncoded) (space name : String) {ms : Json.Members}
    (hmoved : (Json.obj ms).get? "stringData" = none) :
    Store.IsEncoded (s.insert (secretPlace space name) (.obj ms)) where
  resource hj := by
    rw [SortedMap.get?_insert_of_ne s _ Api.resourcePlace_ne_secretPlace] at hj
    exact h.resource hj
  secret {space' name' j} hj := by
    by_cases heq : secretPlace space' name' = secretPlace space name
    · rw [heq, SortedMap.get?_insert_self] at hj
      exact ⟨ms, (Option.some.inj hj).symm, hmoved⟩
    · rw [SortedMap.get?_insert_of_ne s _ heq] at hj
      exact h.secret hj

end Store.IsEncoded

/-- The second store is the first one but for edits of what a resource asks for, and of the data of
the secret that it names. -/
structure SecretLink.Edits {k : Kind} (link : SecretLink k) (space name : String)
    (named : List (String × List Edit)) (namedSecret : k.Spec → List (String × List Edit))
    (s t : Store) (r : Resource k) : Prop where
  stored : s.get? (resourcePlace k space name) = some r.toJson
  resource : Edited (within [("spec", within named)]) (s.get? (resourcePlace k space name))
    (t.get? (resourcePlace k space name))
  secret : Edited (within [("data", within (namedSecret r.spec))])
    (s.get? (secretPlace space (link.secretName r.spec)))
    (t.get? (secretPlace space (link.secretName r.spec)))
  others : ∀ p, p ≠ resourcePlace k space name → p ≠ secretPlace space (link.secretName r.spec) →
    t.get? p = s.get? p

/-! ## What updates name -/

/-- The edit of a text, if one is supplied. -/
def Json.Edit.text (value : Option String) : List Edit := supplied (fun s => some (.str s)) value

/-- The edit of a truth value, if one is supplied. -/
def Json.Edit.flag (value : Option Bool) : List Edit := supplied (fun b => some (.bool b)) value

/-- The edit of a list that is left out when it is empty, if one is supplied. -/
def Json.Edit.texts (value : Option (List String)) : List Edit :=
  supplied (Json.nonemptyList Json.str) value

/-- The edit of a value of a secret, if one is supplied. -/
def Json.Edit.secretText (value : Option String) : List Edit :=
  supplied (fun s => some (.str (Base64.ofText s))) value

open Json.Edit (text flag texts secretText)

@[simp] theorem Json.edited_text (value : Option String) (old : String) :
    Edited (text value) (some (.str old)) (some (.str (value.getD old))) :=
  edited_supplied (fun s => some (.str s)) value old

@[simp] theorem Json.edited_text_or (value old : Option String) :
    Edited (text value) (old.map .str) ((value.or old).map .str) :=
  Option.map_or ▸ edited_supplied_or .str value (old.map .str)

@[simp] theorem Json.edited_flag_or (value old : Option Bool) :
    Edited (flag value) (old.map .bool) ((value.or old).map .bool) :=
  Option.map_or ▸ edited_supplied_or .bool value (old.map .bool)

@[simp] theorem Json.edited_texts (value : Option (List String)) (old : List String) :
    Edited (texts value) (nonemptyList .str old) (nonemptyList .str (value.getD old)) :=
  edited_supplied (nonemptyList .str) value old

namespace StorageUpdate

/-- What an update of a storage names of the specification. -/
def named (u : StorageUpdate) : List (String × List Edit) :=
  [("allowedNamespaces", texts u.allowedNamespaces),
    ("bucket", text u.bucket),
    ("description", text u.description),
    ("endpointURL", text u.endpointUrl),
    ("forcePathStyle", flag u.forcePathStyle),
    ("region", text u.region),
    ("verifyTLS", flag u.verifyTls)]

/-- What it names of the data of the secret. -/
def namedSecret (u : StorageUpdate) (type : StorageType) : List (String × List Edit) :=
  [(type.secretKeys.1, secretText u.accessKey), (type.secretKeys.2, secretText u.secretKey)]

end StorageUpdate

namespace MonitoringUpdate

/-- What an update of a monitoring instance names of the specification. -/
def named (u : MonitoringUpdate) : List (String × List Edit) :=
  [("allowedNamespaces", texts u.allowedNamespaces),
    ("pmm", within [("url", text u.url)]),
    ("verifyTLS", flag u.verifyTls)]

/-- What it names of the data of the secret. -/
def namedSecret (u : MonitoringUpdate) : List (String × List Edit) :=
  [("apiKey", secretText (u.credentials.bind (·.apiKey))),
    ("username", secretText (u.credentials.bind (·.user))),
    ("password", secretText (u.credentials.bind (·.password)))]

end MonitoringUpdate

namespace SplitHorizonUpdate

/-- What an update of a split-horizon config names of the specification. -/
def named (u : SplitHorizonUpdate) : List (String × List Edit) :=
  [("baseDomainNameSuffix", text u.baseDomainNameSuffix)]

/-- What it names of the data of the secret. -/
def namedSecret (u : SplitHorizonUpdate) : List (String × List Edit) :=
  [("ca.crt", secretText (u.ca.map (·.cert))), ("ca.key", secretText (u.ca.map (·.key)))]

end SplitHorizonUpdate

/-! ## Resources -/

/-- Edits of what a resource asks for are edits of the resource. -/
theorem Resource.edited_toJson {k : Kind} {members : List (String × List Edit)} {r r' : Resource k}
    (hmetadata : r'.metadata = r.metadata) (hstatus : r'.status = r.status)
    (h : Edited (within members) (some (k.specJson r.spec)) (some (k.specJson r'.spec))) :
    Edited (within [("spec", within members)]) (some r.toJson) (some r'.toJson) := by
  refine Json.edited_ofFields (by simp) (by simp) ?_
  simp [hmetadata, hstatus, h]

theorem StorageUpdate.edited_applySpec (u : StorageUpdate) (s : BackupStorageSpec) :
    Edited (within u.named) (some s.toJson) (some (u.applySpec s).toJson) := by
  refine Json.edited_ofFields (by simp) (by simp [named]) ?_
  simp [named, applySpec]

theorem PmmSpec.edited_url (p : PmmSpec) (url : Option String) :
    Edited (within [("url", text url)]) (some p.toJson)
      (some { p with url := url.getD p.url }.toJson) := by
  refine Json.edited_ofFields (by simp) (by simp) ?_
  simp

theorem MonitoringUpdate.edited_applySpec (u : MonitoringUpdate) (m : MonitoringConfigSpec) :
    Edited (within u.named) (some m.toJson) (some (u.applySpec m).toJson) := by
  refine Json.edited_ofFields (by simp) (by simp [named]) ?_
  simp [named, applySpec, PmmSpec.edited_url]

theorem SplitHorizonUpdate.edited_applySpec (u : SplitHorizonUpdate)
    (c : SplitHorizonDnsConfigSpec) :
    Edited (within u.named) (some c.toJson) (some (u.applySpec c).toJson) := by
  refine Json.edited_ofFields (by simp) (by simp [named]) ?_
  simp [named, applySpec]

/-! ## Secrets -/

namespace Secret

/-- The values of a secret are the members of its data. -/
theorem get?_data_bind (j : Json) (key : String) :
    ((j.get? "data").bind fun data => data.get? key) =
      Entries.get? key ((members? j).getD []) := by
  unfold members?
  cases j.get? "data" with
  | none => rfl
  | some data => cases data <;> rfl

/-- A patch with texts edits their values, and nothing else of a secret. -/
theorem edited_patch {ms : Json.Members} (hmoved : (Json.obj ms).get? "stringData" = none)
    {data : SecretData} {named : List (String × List Edit)}
    (hnamed : ∀ key, under key (within named) = secretText (data.get? key)) :
    Edited (within [("data", within named)]) (some (.obj ms))
      (some (sealTexts ((Json.obj ms).mergePatch (patchJson data)))) := by
  obtain ⟨ts, hpatch, hsorted, hts⟩ := mergePatch_patchJson hmoved data
  rw [hpatch]
  have hnone (h : within named = []) :
      sealTexts (.obj (Entries.insert "stringData" (.obj ts) ms)) = .obj ms := by
    have hempty : ts = [] := Entries.eq_nil_of_get? fun key => by
      have hkey := hnamed key
      rw [h] at hkey
      rw [hts]
      cases hdata : data.get? key with
      | none => rfl
      | some text => rw [hdata] at hkey; cases hkey
    rw [sealTexts_insert_texts, if_pos hempty, Entries.erase_eq_self hmoved]
  have hmembers : (members? (sealTexts (.obj (Entries.insert "stringData" (.obj ts) ms)))).getD [] =
      insertTexts ((members? (.obj ms)).getD []) ts := by
    rw [members?_sealTexts, waiting_insert_texts, members?_insert_texts]
    split
    · next hempty =>
      rw [hempty]
      rfl
    · rfl
  refine Json.edited_of_members (fun _ => Edit.path_ne_nil_of_mem_within) (fun h => ?_)
    fun key => ?_
  · rw [hnone (by simpa [within] using h)]
  · rw [Option.bind_some, Option.bind_some]
    by_cases hdata : key = "data"
    · subst hdata
      rw [Edit.under_within_cons, if_pos rfl, Edit.under_within_nil, List.append_nil]
      refine Json.edited_of_members (fun _ => Edit.path_ne_nil_of_mem_within)
        (fun h => by rw [hnone h]) fun k => ?_
      rw [hnamed, get?_data_bind, get?_data_bind, hmembers, insertTexts,
        Entries.get?_foldl_insert hsorted, hts, Option.map_map]
      exact Json.edited_supplied_or _ _ _
    · rw [Edit.under_within_cons, if_neg hdata, Edit.under_within_nil, List.nil_append,
        Json.edited_nil]
      by_cases htexts : key = "stringData"
      · rw [htexts, moved_sealTexts, hmoved]
      · rw [get?_sealTexts hdata htexts, get?_insert_texts ms ts htexts]

end Secret

/-! ## Updates -/

/-- An update that succeeds makes the edits that it names. -/
theorem SecretLink.update_edits {k : Kind} {link : SecretLink k} {faults : List Api.Fault}
    {s : Store} {space name : String} {data? : Resource k → Option SecretData}
    {apply : Resource k → Resource k} {named : List (String × List Edit)}
    {namedSecret : k.Spec → List (String × List Edit)} (hs : s.IsEncoded)
    (happly : ∀ r, Edited (within [("spec", within named)]) (some r.toJson)
      (some (apply r).toJson))
    (hnamed : ∀ r key, under key (within (namedSecret r.spec)) =
      secretText ((data? r).bind fun data => data.get? key))
    {a : Resource k}
    (ha : ((link.update space name data? apply).run (serveUnder faults) s).answer = .ok a) :
    ∃ r, link.Edits space name named namedSecret s
      ((link.update space name data? apply).run (serveUnder faults) s).state r := by
  -- What is read is the stored resource with its instants cut, which is encoded as it is.
  have hresource {j : Json} {current : Resource k}
      (hj : s.get? (resourcePlace k space name) = some j)
      (hread : Resource.ofJson? k j = some current) :
      ∃ r : Resource k, j = r.toJson ∧ current.spec = r.spec ∧
        Edited (within [("spec", within named)]) (some j) (some (apply current).toJson) := by
    obtain ⟨r, rfl⟩ := hs.resource hj
    rw [Resource.ofJson?_toJson] at hread
    obtain rfl := Option.some.inj hread
    exact ⟨r, rfl, rfl, r.toJson_cut ▸ happly r.cut⟩
  have hensures : Program.Ensures (serveUnder faults) (link.update space name data? apply) s
      (fun _ => True) (fun _ t => ∃ r, link.Edits space name named namedSecret s t r)
      fun _ _ => True := by
    refine link.update_ensures trivial (fun _ => trivial) ?_ ?_
    · intro j current hj hread hdata
      obtain ⟨r, hr, hspec, hedited⟩ := hresource hj hread
      refine ⟨trivial, fun _ => ⟨r, hr ▸ hj, ?_, ?_, ?_⟩⟩
      · rw [hj, SortedMap.get?_insert_self]
        exact hedited
      · have hnone : within (namedSecret r.spec) = [] := Edit.within_eq_nil fun key => by
          rw [← hspec, hnamed, hdata]
          rfl
        rw [SortedMap.get?_insert_of_ne s _ Api.resourcePlace_ne_secretPlace.symm, hnone]
        exact Json.edited_nil.2 rfl
      · exact fun p hp _ => SortedMap.get?_insert_of_ne s _ hp
    · rintro j current data old hj hread hdata hold _ rfl
      obtain ⟨r, hr, hspec, hedited⟩ := hresource hj hread
      rw [hspec] at hold ⊢
      refine ⟨trivial, fun _ => trivial, trivial, fun _ => ⟨r, hr ▸ hj, ?_, ?_, ?_⟩⟩
      · rw [hj, SortedMap.get?_insert_self]
        exact hedited
      · obtain ⟨ms, rfl, hmoved⟩ := hs.secret hold
        rw [SortedMap.get?_insert_of_ne _ _ Api.resourcePlace_ne_secretPlace.symm,
          SortedMap.get?_insert_self, hold]
        refine Secret.edited_patch hmoved fun key => ?_
        have hkey := hnamed current key
        rwa [hdata, hspec] at hkey
      · intro p hp hp'
        rw [SortedMap.get?_insert_of_ne _ _ hp, SortedMap.get?_insert_of_ne _ _ hp']
  exact hensures.of_ok a ha

/-! ## What updates set in secrets -/

/-- What stands under a key in the contents with the values that are there. -/
theorem SecretData.get?_ofOptional {entries : List (String × Option String)}
    (hnodup : (entries.map (·.1)).Nodup) (key : String) :
    (ofOptional entries).get? key = (entries.lookup key).join := by
  have hfold (m : SecretData) : ((entries.filterMap fun e =>
      e.2.map fun v => (e.1, v)).foldl (fun m e => m.insert e.1 e.2) m).get? key =
        (entries.lookup key).join.or (m.get? key) := by
    induction entries generalizing m with
    | nil => rfl
    | cons e rest ih =>
      obtain ⟨k, v⟩ := e
      obtain ⟨hk, hrest⟩ := List.nodup_cons.1 hnodup
      have hlookup : rest.lookup k = none := List.lookup_eq_none_iff.2 fun e he =>
        bne_iff_ne.2 fun heq => hk (List.mem_map.2 ⟨e, he, heq.symm⟩)
      by_cases hkey : key = k
      · subst hkey
        cases v <;> simp [ih hrest, hlookup]
      · have hbeq : (key == k) = false := beq_false_of_ne hkey
        cases v <;> simp [ih hrest, List.lookup_cons, hbeq, SortedMap.get?_insert_of_ne m _ hkey]
  exact (hfold .empty).trans Option.or_none

/-- The edits of a list of values that may be supplied. -/
theorem Json.Edit.under_secretTexts {entries : List (String × Option String)}
    (hnodup : (entries.map (·.1)).Nodup) (key : String) :
    under key (within (entries.map fun e => (e.1, secretText e.2))) =
      secretText ((SecretData.ofOptional entries).get? key) := by
  rw [SecretData.get?_ofOptional hnodup]
  induction entries with
  | nil => rfl
  | cons e rest ih =>
    obtain ⟨k, v⟩ := e
    obtain ⟨hk, hrest⟩ := List.nodup_cons.1 hnodup
    rw [List.map_cons, under_within_cons]
    by_cases hkey : key = k
    · subst hkey
      have hnone : under key (within (rest.map fun e => (e.1, secretText e.2))) = [] :=
        under_within_eq_nil (by simpa using hk)
      rw [if_pos rfl, hnone, List.append_nil]
      simp
    · have hbeq : (key == k) = false := beq_false_of_ne hkey
      rw [if_neg hkey, List.nil_append, ih hrest, List.lookup_cons, hbeq]

theorem StorageUpdate.under_namedSecret (u : StorageUpdate) (r : BackupStorage) (key : String) :
    under key (within (u.namedSecret r.spec.storageType)) =
      secretText ((u.secretData? r).bind fun data => data.get? key) := by
  have hnodup : ([(r.spec.storageType.secretKeys.1, u.accessKey),
      (r.spec.storageType.secretKeys.2, u.secretKey)].map (·.1)).Nodup := by
    cases r.spec.storageType <;> simp [StorageType.secretKeys]
  have hedits := Edit.under_secretTexts hnodup key
  rw [secretData?]
  split
  · exact hedits
  · next hsame =>
    obtain ⟨haccess, hsecret⟩ : u.accessKey = none ∧ u.secretKey = none := by
      simpa [changesCredentials] using hsame
    simp [namedSecret, haccess, hsecret, secretText, supplied]

theorem MonitoringUpdate.under_namedSecret (u : MonitoringUpdate) (key : String) :
    under key (within u.namedSecret) =
      secretText ((u.credentials.map MonitoringCredentials.secretData).bind
        fun data => data.get? key) := by
  cases hcredentials : u.credentials with
  | none => simp [namedSecret, hcredentials, secretText, supplied]
  | some c =>
    rw [namedSecret, hcredentials]
    have hnodup : ([("apiKey", c.apiKey), ("username", c.user),
      ("password", c.password)].map (·.1)).Nodup := by simp
    exact Edit.under_secretTexts hnodup key

theorem SplitHorizonUpdate.under_namedSecret (u : SplitHorizonUpdate) (key : String) :
    under key (within u.namedSecret) =
      secretText ((u.ca.map CertificateAuthority.secretData).bind fun data => data.get? key) := by
  cases hca : u.ca with
  | none => simp [namedSecret, hca, secretText, supplied]
  | some ca =>
    rw [namedSecret, hca]
    have hnodup : ([("ca.crt", some ca.cert), ("ca.key", some ca.key)].map (·.1)).Nodup := by simp
    exact Edit.under_secretTexts hnodup key

/-! ## All updates -/

theorem Option.getD_getD_self {α : Type} (value : Option α) (old : α) :
    value.getD (value.getD old) = value.getD old := by
  cases value <;> rfl

theorem StorageUpdate.apply_apply (u : StorageUpdate) (r : BackupStorage) :
    u.apply (u.apply r) = u.apply r := by
  simp [apply, applySpec, Option.getD_getD_self, ← Option.or_assoc]

theorem StorageUpdate.applyCredentials_applyCredentials (u : StorageUpdate)
    (c : StorageCredentials) :
    u.applyCredentials (u.applyCredentials c) = u.applyCredentials c := by
  simp [applyCredentials, Option.getD_getD_self]

theorem MonitoringUpdate.apply_apply (u : MonitoringUpdate) (r : MonitoringConfig) :
    u.apply (u.apply r) = u.apply r := by
  simp [apply, applySpec, Option.getD_getD_self, ← Option.or_assoc]

theorem SplitHorizonUpdate.apply_apply (u : SplitHorizonUpdate) (r : SplitHorizonDnsConfig) :
    u.apply (u.apply r) = u.apply r := by
  simp [apply, applySpec, Option.getD_getD_self]

/-- An update that succeeds changes of the store what it names: the fields that it supplies of the
resource, and the values that it supplies of the secret. What it does to a resource and to
credentials is the same done once and done twice. -/
theorem Operation.updates_edit_only_named {faults : List Api.Fault} {s : Store}
    (hs : s.IsEncoded) :
    (∀ (u : StorageUpdate) (a : BackupStorage),
      ((updateStorage u).perform.run (serveUnder faults) s).answer = .ok a →
        ∃ r, SecretLink.storage.Edits u.space u.name u.named
          (fun spec => u.namedSecret spec.storageType) s
          ((updateStorage u).perform.run (serveUnder faults) s).state r) ∧
    (∀ (u : MonitoringUpdate) (a : MonitoringConfig),
      ((updateMonitoring u).perform.run (serveUnder faults) s).answer = .ok a →
        ∃ r, SecretLink.monitoring.Edits u.space u.name u.named (fun _ => u.namedSecret) s
          ((updateMonitoring u).perform.run (serveUnder faults) s).state r) ∧
    (∀ (u : SplitHorizonUpdate) (a : SplitHorizonDnsConfig),
      ((updateSplitHorizon u).perform.run (serveUnder faults) s).answer = .ok a →
        ∃ r, SecretLink.splitHorizon.Edits u.space u.name u.named (fun _ => u.namedSecret) s
          ((updateSplitHorizon u).perform.run (serveUnder faults) s).state r) ∧
    (∀ (u : StorageUpdate) r, u.apply (u.apply r) = u.apply r) ∧
    (∀ (u : StorageUpdate) c, u.applyCredentials (u.applyCredentials c) = u.applyCredentials c) ∧
    (∀ (u : MonitoringUpdate) r, u.apply (u.apply r) = u.apply r) ∧
    ∀ (u : SplitHorizonUpdate) r, u.apply (u.apply r) = u.apply r := by
  refine ⟨fun u a ha => ?_, fun u a ha => ?_, fun u a ha => ?_, StorageUpdate.apply_apply,
    StorageUpdate.applyCredentials_applyCredentials, MonitoringUpdate.apply_apply,
    SplitHorizonUpdate.apply_apply⟩
  · exact SecretLink.update_edits hs
      (fun r => Resource.edited_toJson rfl rfl (u.edited_applySpec r.spec)) u.under_namedSecret ha
  · exact SecretLink.update_edits hs
      (fun r => Resource.edited_toJson rfl rfl (u.edited_applySpec r.spec))
      (fun _ => u.under_namedSecret) ha
  · exact SecretLink.update_edits hs
      (fun r => Resource.edited_toJson rfl rfl (u.edited_applySpec r.spec))
      (fun _ => u.under_namedSecret) ha

namespace Sample

/-- A storage with a description, of which updates know nothing. -/
def described : BackupStorage where
  metadata := { name := some "backups", space := some "ns", uid := some "41c7" }
  spec := { storageType := .azure, bucket := "daily", region := "eu", description := some "cold",
            credentialsSecretName := "backups-key" }

/-- The storage and its secret. -/
def vault : Store :=
  (SortedMap.empty.insert (resourcePlace .backupStorage "ns" "backups") described.toJson).insert
    (secretPlace "ns" "backups-key")
    (.obj [("data", .obj [("AZURE_STORAGE_ACCOUNT_KEY", .str "b2xk"),
      ("AZURE_STORAGE_ACCOUNT_NAME", .str "YWNjb3VudA==")])])

/-- An update of the bucket and of one of the keys. -/
def relocation : StorageUpdate :=
  { space := "ns", name := "backups", bucket := some "weekly", secretKey := some "new" }

end Sample

theorem Operation.updates_edit_only_named_of_sample :
    Sample.vault.IsEncoded ∧
      ∃ a, ((updateStorage Sample.relocation).perform.run (serveUnder []) Sample.vault).answer =
          .ok a ∧
        ∃ r, SecretLink.storage.Edits "ns" "backups" Sample.relocation.named
          (fun spec => Sample.relocation.namedSecret spec.storageType) Sample.vault
          ((updateStorage Sample.relocation).perform.run (serveUnder []) Sample.vault).state r := by
  have hencoded : Sample.vault.IsEncoded :=
    (Store.IsEncoded.empty.insert_resource "ns" "backups" Sample.described).insert_secret "ns"
      "backups-key" rfl
  have hok : ((updateStorage Sample.relocation).perform.run (serveUnder []) Sample.vault).answer =
      .ok (Sample.relocation.apply Sample.described) := by decide +kernel
  exact ⟨hencoded, _, hok, (updates_edit_only_named hencoded).1 Sample.relocation _ hok⟩

end ClusterAdmission
