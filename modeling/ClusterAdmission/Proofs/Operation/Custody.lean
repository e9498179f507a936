import ClusterAdmission.Proofs.Operation.WithSecret

/-!
# The custody of secrets

Every resource that names a secret names one that is there, no two name the same, and what was there
at the start is left alone (`Store.Custody`). Secrets that no resource names are loose. A new secret
is loose until its resource comes, and becomes loose again when its resource goes; each of the six
ways in which the programs of a link write keeps custody, so every operation does
(`Operation.custody`), and it leaves loose only a secret whose deletion does not reach the API.
-/

namespace ClusterAdmission

open Api (Program Request serveUnder resourcePlace createdPlace secretPlace)

/-- Whether the resources of a collection name secrets. -/
def Collection.namesSecrets : Collection → Bool
  | .resources k => (SecretLink.ofKind? k).isSome
  | .secrets => false

/-- The name of the secret that an object of a collection names. -/
def Collection.secretIn? : Collection → Json → Option String
  | .resources k, j =>
    (SecretLink.ofKind? k).bind fun link => (Resource.specIn? k j).map link.secretName
  | .secrets, _ => none

namespace Store

/-- The place of the secret that the object at a place names. -/
def secretOf? (s : Store) (p : Place) : Option Place :=
  (s.get? p).bind fun j => (p.collection.secretIn? j).map (secretPlace p.space)

/-- The custody of secrets in a store, since a start. -/
structure Custody (start s : Store) (loose : Place → Prop) : Prop where
  /-- What a resource names is a secret that is there and was not there at the start. -/
  named {p : Place} : p.collection.namesSecrets → s.contains p →
    ∃ q, s.secretOf? p = some q ∧ s.contains q ∧ start.get? q = none
  /-- No two resources name the same secret. -/
  unique {p p' q : Place} : s.secretOf? p = some q → s.secretOf? p' = some q → p = p'
  /-- The secrets of the start are unmodified. -/
  kept {q : Place} {j : Json} : q.collection = .secrets → start.get? q = some j →
    s.get? q = some j
  /-- Every other secret is loose, or a resource names it. -/
  owned {q : Place} : q.collection = .secrets → s.contains q → start.get? q = none →
    loose q ∨ ∃ p, s.secretOf? p = some q

/-! ## What stores name -/

variable {start s t : Store} {loose more : Place → Prop} {p q : Place} {j : Json}

theorem secretOf?_eq_some (h : s.secretOf? p = some q) :
    p.collection.namesSecrets ∧ s.contains p ∧ q.collection = .secrets := by
  obtain ⟨j, hj, hname⟩ := Option.bind_eq_some_iff.1 h
  obtain ⟨name, hsecret, rfl⟩ := Option.map_eq_some_iff.1 hname
  refine ⟨?_, SortedMap.contains_iff.2 ⟨j, hj⟩, rfl⟩
  cases hcollection : p.collection with
  | secrets =>
    rw [hcollection] at hsecret
    cases hsecret
  | resources k =>
    rw [hcollection] at hsecret
    obtain ⟨link, hlink, -⟩ := Option.bind_eq_some_iff.1 hsecret
    rw [Collection.namesSecrets, hlink]
    rfl

theorem secretOf?_congr (h : t.get? p = s.get? p) : t.secretOf? p = s.secretOf? p := by
  rw [secretOf?, secretOf?, h]

/-- A secret names none. -/
theorem secretOf?_of_secret (h : p.collection = .secrets) : s.secretOf? p = none := by
  rw [secretOf?, h]
  cases s.get? p <;> rfl

/-- Writing a secret changes no names. -/
theorem secretOf?_of_others (hq : q.collection = .secrets)
    (hothers : ∀ x, x ≠ q → t.get? x = s.get? x) (p : Place) : t.secretOf? p = s.secretOf? p := by
  by_cases hp : p = q
  · rw [hp, secretOf?_of_secret hq, secretOf?_of_secret hq]
  · exact secretOf?_congr (hothers p hp)

/-- A resource that can be read names what its link says. -/
theorem secretOf?_of_spec {k : Kind} {link : SecretLink k} {spec : k.Spec}
    (hlink : SecretLink.ofKind? k = some link) (hp : p.collection = .resources k)
    (hj : s.get? p = some j) (hspec : Resource.specIn? k j = some spec) :
    s.secretOf? p = some (secretPlace p.space (link.secretName spec)) := by
  rw [secretOf?, hj, Option.bind_some, hp, Collection.secretIn?, hlink, Option.bind_some, hspec]
  rfl

theorem contains_congr (h : t.get? p = s.get? p) : t.contains p = s.contains p := by
  rw [SortedMap.contains, SortedMap.contains, h]

/-! ## Steps -/

namespace Custody

theorem mono (h : Custody start s loose) (hsub : ∀ q, loose q → more q) : Custody start s more where
  named := h.named
  unique := h.unique
  kept := h.kept
  owned hq hthere hnew := (h.owned hq hthere hnew).imp_left (hsub _)

/-- What a resource names is there and was not at the start. -/
theorem of_secretOf? (h : Custody start s loose) (hp : s.secretOf? p = some q) :
    s.contains q ∧ start.get? q = none := by
  obtain ⟨hnames, hthere, -⟩ := secretOf?_eq_some hp
  obtain ⟨q', hq', hcontains, hnew⟩ := h.named hnames hthere
  rw [hp] at hq'
  obtain rfl := Option.some.inj hq'
  exact ⟨hcontains, hnew⟩

/-- A place that is free was free at the start, and no resource names it. -/
theorem of_free (h : Custody start s loose) (hq : q.collection = .secrets)
    (hfree : s.get? q = none) : start.get? q = none ∧ ∀ p, s.secretOf? p ≠ some q := by
  constructor
  · cases hstart : start.get? q with
    | none => rfl
    | some j =>
      rw [h.kept hq hstart] at hfree
      cases hfree
  · intro p hp
    obtain ⟨hcontains, -⟩ := h.of_secretOf? hp
    rw [SortedMap.contains, hfree] at hcontains
    cases hcontains

/-- Where the same resources name the same secrets, custody is about the secrets: those that are
named stay, those of the start stay as they are, and any other is loose or named as before. -/
theorem of_same_names (h : Custody start s loose)
    (hthere : ∀ p : Place, p.collection.namesSecrets → t.contains p = s.contains p)
    (hnames : ∀ p, t.secretOf? p = s.secretOf? p)
    (hstays : ∀ p q, s.secretOf? p = some q → t.contains q)
    (hkept : ∀ (q : Place) j, q.collection = .secrets → start.get? q = some j →
      t.get? q = s.get? q)
    (howned : ∀ q : Place, q.collection = .secrets → t.contains q → start.get? q = none →
      more q ∨ (s.contains q ∧ (loose q → more q)) ∨ ∃ p, s.secretOf? p = some q) :
    Custody start t more where
  named {p} hp hthere' := by
    rw [hthere p hp] at hthere'
    obtain ⟨q, hq, -, hnew⟩ := h.named hp hthere'
    exact ⟨q, (hnames p).trans hq, hstays p q hq, hnew⟩
  unique {p p' q} hp hp' := by
    rw [hnames] at hp hp'
    exact h.unique hp hp'
  kept {q j} hq hstart := (hkept q j hq hstart).trans (h.kept hq hstart)
  owned {q} hq hthere' hnew := by
    simp only [hnames]
    rcases howned q hq hthere' hnew with hmore | ⟨hbefore, hmore⟩ | hnamed
    · exact .inl hmore
    · exact (h.owned hq hbefore hnew).imp_left hmore
    · exact .inr hnamed

/-- Writing a secret that was not there at the start: it stays, or no resource names it. -/
theorem write_secret (h : Custody start s loose) (hq : q.collection = .secrets)
    (hnew : start.get? q = none) (hothers : ∀ x, x ≠ q → t.get? x = s.get? x)
    (hstays : t.contains q ∨ ∀ p, s.secretOf? p ≠ some q)
    (hmore : ∀ x, x ≠ q → loose x → more x)
    (howned : t.contains q → more q ∨ ∃ p, s.secretOf? p = some q) : Custody start t more := by
  refine h.of_same_names ?_ (secretOf?_of_others hq hothers) ?_ ?_ ?_
  · intro p hp
    refine contains_congr (hothers p ?_)
    rintro rfl
    rw [hq] at hp
    cases hp
  · intro p q' hp
    by_cases heq : q' = q
    · subst heq
      exact hstays.resolve_right fun hunnamed => hunnamed p hp
    · rw [contains_congr (hothers q' heq)]
      exact (h.of_secretOf? hp).1
  · intro q' j _ hstart
    refine hothers q' ?_
    rintro rfl
    rw [hnew] at hstart
    cases hstart
  · intro q' _ hthere _
    by_cases heq : q' = q
    · subst heq
      exact (howned hthere).imp_right .inr
    · rw [contains_congr (hothers q' heq)] at hthere
      exact .inr (.inl ⟨hthere, hmore q' heq⟩)

/-- A resource that names what no other names leaves the names of all resources apart. -/
theorem unique_of_write (h : Custody start s loose)
    (hnames : ∀ p', p' ≠ p → t.secretOf? p' = s.secretOf? p')
    (hapart : ∀ q, t.secretOf? p = some q → ∀ p', p' ≠ p → s.secretOf? p' ≠ some q)
    {p₁ p₂ : Place} (h₁ : t.secretOf? p₁ = some q) (h₂ : t.secretOf? p₂ = some q) : p₁ = p₂ := by
  by_cases heq₁ : p₁ = p
  · by_cases heq₂ : p₂ = p
    · rw [heq₁, heq₂]
    · rw [hnames p₂ heq₂] at h₂
      exact absurd h₂ (hapart q (heq₁ ▸ h₁) p₂ heq₂)
  · rw [hnames p₁ heq₁] at h₁
    by_cases heq₂ : p₂ = p
    · exact absurd h₁ (hapart q (heq₂ ▸ h₂) p₁ heq₁)
    · rw [hnames p₂ heq₂] at h₂
      exact h.unique h₁ h₂

/-- Writing a resource: if it is there afterwards, it names a secret that is there, was not at the
start, and is named by no other; the secret that it named before is loose or still named. -/
theorem write_resource (h : Custody start s loose) (hp : p.collection ≠ .secrets)
    (hothers : ∀ x, x ≠ p → t.get? x = s.get? x)
    (hnamed : t.contains p → ∃ q, t.secretOf? p = some q ∧ s.contains q ∧ start.get? q = none ∧
      ∀ p', p' ≠ p → s.secretOf? p' ≠ some q)
    (howned : ∀ q, loose q ∨ s.secretOf? p = some q → more q ∨ t.secretOf? p = some q) :
    Custody start t more := by
  have hsecrets {q : Place} (hq : q.collection = .secrets) : t.get? q = s.get? q := by
    refine hothers q ?_
    rintro rfl
    exact hp hq
  have hnames (p' : Place) (hp' : p' ≠ p) : t.secretOf? p' = s.secretOf? p' :=
    secretOf?_congr (hothers p' hp')
  refine { named := ?_, unique := h.unique_of_write hnames ?_, kept := ?_, owned := ?_ }
  · intro p' hp' hthere
    by_cases heq : p' = p
    · subst heq
      obtain ⟨q, hq, hcontains, hnew, -⟩ := hnamed hthere
      rw [← contains_congr (hsecrets (secretOf?_eq_some hq).2.2)] at hcontains
      exact ⟨q, hq, hcontains, hnew⟩
    · rw [contains_congr (hothers p' heq)] at hthere
      obtain ⟨q, hq, hcontains, hnew⟩ := h.named hp' hthere
      rw [← contains_congr (hsecrets (secretOf?_eq_some hq).2.2)] at hcontains
      exact ⟨q, (hnames p' heq).trans hq, hcontains, hnew⟩
  · intro q hq
    obtain ⟨q', hq', -, -, hunnamed⟩ := hnamed (secretOf?_eq_some hq).2.1
    rw [hq] at hq'
    obtain rfl := Option.some.inj hq'
    exact hunnamed
  · intro q j hq hstart
    rw [hsecrets hq]
    exact h.kept hq hstart
  · intro q hq hthere hnew
    rw [contains_congr (hsecrets hq)] at hthere
    rcases h.owned hq hthere hnew with hloose | ⟨p', hp'⟩
    · exact (howned q (.inl hloose)).imp_right fun hnow => ⟨p, hnow⟩
    · by_cases heq : p' = p
      · exact (howned q (.inr (heq ▸ hp'))).imp_right fun hnow => ⟨p, hnow⟩
      · exact .inr ⟨p', (hnames p' heq).trans hp'⟩

/-- A resource that is replaced goes on naming its secret. -/
theorem replace_resource (h : Custody start s loose) (hold : s.secretOf? p = some q)
    (hnow : t.secretOf? p = some q) (hothers : ∀ x, x ≠ p → t.get? x = s.get? x) :
    Custody start t loose := by
  obtain ⟨hcontains, hnew⟩ := h.of_secretOf? hold
  refine h.write_resource ?_ hothers (fun _ => ⟨q, hnow, hcontains, hnew, ?_⟩) ?_
  · intro hp
    rw [secretOf?_of_secret hp] at hold
    cases hold
  · exact fun p' hne hp' => hne (h.unique hp' hold)
  · intro q' hq'
    rw [hnow, ← hold]
    exact hq'

/-- A new secret is loose. -/
theorem add_secret (h : Custody start s loose) (hq : q.collection = .secrets)
    (hfree : s.get? q = none) (j : Json) :
    Custody start (s.insert q j) fun x => loose x ∨ x = q := by
  obtain ⟨hnew, hunnamed⟩ := h.of_free hq hfree
  exact h.write_secret hq hnew (fun x hx => SortedMap.get?_insert_of_ne s j hx) (.inr hunnamed)
    (fun _ _ => .inl) fun _ => .inl (.inr rfl)

/-- A secret that is patched goes on being named. -/
theorem patch_secret (h : Custody start s loose) (hp : s.secretOf? p = some q) (j : Json) :
    Custody start (s.insert q j) loose :=
  h.write_secret (secretOf?_eq_some hp).2.2 (h.of_secretOf? hp).2
    (fun _ hx => SortedMap.get?_insert_of_ne s j hx) (.inl (SortedMap.contains_insert_self j))
    (fun _ _ hx => hx) fun _ => .inr ⟨p, hp⟩

/-- A new resource takes custody of a secret that no other names. -/
theorem add_resource (h : Custody start s fun x => loose x ∨ x = q) (hfree : s.get? p = none)
    (hname : Store.secretOf? (s.insert p j) p = some q) (hthere : s.contains q)
    (hnew : start.get? q = none) (hunnamed : ∀ p', s.secretOf? p' ≠ some q) :
    Custody start (s.insert p j) loose := by
  have hp : p.collection ≠ .secrets := by
    intro hp
    rw [secretOf?_of_secret hp] at hname
    cases hname
  refine h.write_resource hp (fun x hx => SortedMap.get?_insert_of_ne s j hx)
    (fun _ => ⟨q, hname, hthere, hnew, fun p' _ => hunnamed p'⟩) ?_
  rintro x ((hloose | rfl) | hx)
  · exact .inl hloose
  · exact .inr hname
  · -- Nothing is named by a place that is free.
    obtain ⟨-, hcontains, -⟩ := secretOf?_eq_some hx
    rw [SortedMap.contains, hfree] at hcontains
    cases hcontains

/-- The secret of a resource that goes is loose, and no other resource names it. -/
theorem erase_resource (h : Custody start s loose) (hp : s.secretOf? p = some q) :
    Custody start (s.erase p) (fun x => loose x ∨ x = q) ∧
      ∀ p', Store.secretOf? (s.erase p) p' ≠ some q := by
  have hothers (x : Place) (hx : x ≠ p) : SortedMap.get? (s.erase p) x = s.get? x :=
    SortedMap.get?_erase_of_ne s hx
  constructor
  · refine h.write_resource ?_ hothers (fun hthere => ?_) ?_
    · intro hsecret
      rw [secretOf?_of_secret hsecret] at hp
      cases hp
    · rw [SortedMap.contains_erase_self] at hthere
      cases hthere
    · rintro x (hloose | hx)
      · exact .inl (.inl hloose)
      · rw [hp] at hx
        exact .inl (.inr (Option.some.inj hx).symm)
  · intro p' hp'
    by_cases heq : p' = p
    · rw [heq, secretOf?, SortedMap.get?_erase_self] at hp'
      cases hp'
    · rw [secretOf?_congr (hothers p' heq)] at hp'
      exact heq (h.unique hp' hp)

/-- A secret that no resource names may go. -/
theorem erase_secret (h : Custody start s fun x => loose x ∨ x = q) (hq : q.collection = .secrets)
    (hnew : start.get? q = none) (hunnamed : ∀ p, s.secretOf? p ≠ some q) :
    Custody start (s.erase q) loose := by
  refine h.write_secret hq hnew (fun x hx => SortedMap.get?_erase_of_ne s hx) (.inr hunnamed)
    (fun _ hx hloose => hloose.resolve_right hx) fun hthere => ?_
  rw [SortedMap.contains_erase_self] at hthere
  cases hthere

/-- A secret that may be loose counts as such no longer if it is loose anyway. -/
theorem absorb (h : Custody start s fun x => loose x ∨ x = q) (hq : loose q) :
    Custody start s loose := by
  refine h.mono fun x hx => hx.elim id ?_
  rintro rfl
  exact hq

/-- What leaves secrets and the resources that name them alone keeps custody. -/
theorem same (h : Custody start s loose) (hst : s.SameCustody t) : Custody start t loose := by
  have hsecrets (q : Place) (hq : q.collection = .secrets) : t.get? q = s.get? q :=
    hst q (by rw [hq]; rfl)
  have hresources (p : Place) (hp : p.collection.namesSecrets) : t.get? p = s.get? p := by
    refine hst p ?_
    cases hcollection : p.collection with
    | secrets => rfl
    | resources k =>
      rw [hcollection] at hp
      exact hp
  have hnames (p : Place) : t.secretOf? p = s.secretOf? p := by
    by_cases hp : p.collection.namesSecrets
    · exact secretOf?_congr (hresources p hp)
    · have hnone (u : Store) : u.secretOf? p = none := by
        rw [Option.eq_none_iff_forall_not_mem]
        exact fun q hq => hp (secretOf?_eq_some hq).1
      rw [hnone, hnone]
  refine h.of_same_names (fun p hp => contains_congr (hresources p hp)) hnames ?_ ?_ ?_
  · intro p q hp
    rw [contains_congr (hsecrets q (secretOf?_eq_some hp).2.2)]
    exact (h.of_secretOf? hp).1
  · exact fun q _ hq _ => hsecrets q hq
  · intro q hq hthere _
    rw [contains_congr (hsecrets q hq)] at hthere
    exact .inr (.inl ⟨hthere, id⟩)

end Custody

end Store

/-! ## Operations -/

namespace SecretLink

variable {k : Kind} {link : SecretLink k} {faults : List Api.Fault} {start s : Store}
  {loose : Place → Prop}

/-- Within a request any secret may be loose, and after it only those that were, if none is that
cannot be deleted. -/
abbrev KeepsCustody {α : Type} (faults : List Api.Fault) (start : Store) (loose : Place → Prop)
    (p : Program α) (s : Store) : Prop :=
  Program.Ensures (serveUnder faults) p s (fun t => start.Custody t fun _ => True)
    (fun _ t => start.Custody t loose) fun _ t => start.Custody t loose

theorem space_resourcePlace (hlink : ofKind? k = some link) (space name : String) :
    (resourcePlace k space name).space = space := by
  cases k with
  | backupStorage | monitoringConfig | splitHorizonDnsConfig => rfl
  | _ => cases hlink

theorem create_custody (hlink : ofKind? k = some link) (h : start.Custody s loose)
    (hstuck : ∀ q, ¬ (Request.delete q).Reaches faults → loose q) (r : Resource k)
    (data : SecretData) : KeepsCustody faults start loose (link.create r data) s := by
  generalize hnew : link.filled r = new
  have hadd (hfree : s.get? (link.secretOf new) = none) :
      start.Custody (link.addSecret s new data) fun x => loose x ∨ x = link.secretOf new :=
    h.add_secret rfl hfree (link.newSecret new data)
  refine link.create_ensures hnew (h.mono fun _ _ => trivial) (fun _ => h)
    (fun hfree => (hadd hfree).mono fun _ _ => trivial) ?_ ?_
  · exact fun hfree hstays _ => (hadd hfree).absorb (hstuck _ hstays)
  · intro hfree hplace
    obtain ⟨hstart, hunnamed⟩ := h.of_free rfl hfree
    have hothers (x : Place) (hx : x ≠ link.secretOf new) :
        (link.addSecret s new data).get? x = s.get? x := SortedMap.get?_insert_of_ne s _ hx
    have hne : createdPlace new ≠ link.secretOf new := nofun
    have hname : Store.secretOf? ((link.addSecret s new data).insert (createdPlace new) new.toJson)
        (createdPlace new) = some (link.secretOf new) := by
      rw [Store.secretOf?_of_spec hlink rfl (SortedMap.get?_insert_self _ _ _)
        (Resource.specIn?_toJson new)]
      exact congrArg (fun space => some (secretPlace space (link.secretName new.spec)))
        (space_resourcePlace hlink new.space "")
    have hboth := (hadd hfree).add_resource ((hothers _ hne).trans hplace) hname
      (SortedMap.contains_insert_self _) hstart fun p' hp' =>
        hunnamed p' ((Store.secretOf?_of_others rfl hothers p').symm.trans hp')
    exact ⟨hboth.mono fun _ _ => trivial, fun _ _ => hboth⟩

/-- A resource that is read names its secret. -/
theorem secretOf?_of_read (hlink : ofKind? k = some link) {space name : String} {j : Json}
    {current : Resource k} (hj : s.get? (resourcePlace k space name) = some j)
    (hread : Resource.ofJson? k j = some current) :
    s.secretOf? (resourcePlace k space name) =
      some (secretPlace space (link.secretName current.spec)) := by
  rw [Store.secretOf?_of_spec hlink rfl hj (Resource.specIn?_of_ofJson? hread),
    space_resourcePlace hlink]

theorem update_custody (hlink : ofKind? k = some link) (h : start.Custody s loose)
    (space name : String) (data? : Resource k → Option SecretData)
    {apply : Resource k → Resource k}
    (happly : ∀ r, link.secretName (apply r).spec = link.secretName r.spec) :
    KeepsCustody faults start loose (link.update space name data? apply) s := by
  -- Whether or not the secret has been patched, the resource is replaced by one that names it.
  have hreplace {t : Store} (ht : start.Custody t loose) {j : Json} {current : Resource k}
      (hj : t.get? (resourcePlace k space name) = some j)
      (hread : Resource.ofJson? k j = some current) :
      start.Custody (t.insert (resourcePlace k space name) (apply current).toJson) loose := by
    refine ht.replace_resource (secretOf?_of_read hlink hj hread) ?_
      fun x hx => SortedMap.get?_insert_of_ne _ _ hx
    rw [Store.secretOf?_of_spec hlink rfl (SortedMap.get?_insert_self _ _ _)
      (Resource.specIn?_toJson _), space_resourcePlace hlink, happly]
  refine link.update_ensures (h.mono fun _ _ => trivial) (fun _ => h) ?_ ?_
  · intro j current hj hread _
    have hboth := hreplace h hj hread
    exact ⟨hboth.mono fun _ _ => trivial, fun _ => hboth⟩
  · rintro j current data old hj hread - hold t rfl
    have hpatched := h.patch_secret (secretOf?_of_read hlink hj hread)
      (Secret.sealTexts (old.mergePatch (Secret.patchJson data)))
    have hne : resourcePlace k space name ≠ secretPlace space (link.secretName current.spec) :=
      nofun
    have hboth := hreplace hpatched ((SortedMap.get?_insert_of_ne _ _ hne).trans hj) hread
    exact ⟨hpatched.mono fun _ _ => trivial, fun _ => hpatched, hboth.mono fun _ _ => trivial,
      fun _ => hboth⟩

theorem delete_custody (hlink : ofKind? k = some link) (h : start.Custody s loose)
    (hstuck : ∀ q, ¬ (Request.delete q).Reaches faults → loose q) (space name : String) :
    KeepsCustody faults start loose (link.delete space name) s := by
  refine link.delete_ensures (h.mono fun _ _ => trivial) (fun _ => h) ?_
  rintro j current hj hread t rfl
  have hnamed := secretOf?_of_read hlink hj hread
  obtain ⟨hdrop, hunnamed⟩ := h.erase_resource hnamed
  have hboth := hdrop.erase_secret rfl (h.of_secretOf? hnamed).2 hunnamed
  refine ⟨hdrop.mono fun _ _ => trivial, fun hstays => ?_, hboth.mono fun _ _ => trivial, hboth⟩
  have hstill := hdrop.absorb (hstuck _ hstays)
  exact ⟨hstill, fun _ => hstill⟩

end SecretLink

/-- Every operation keeps custody, and leaves loose only what cannot be deleted. -/
theorem Operation.custody {faults : List Api.Fault} {start s : Store} {loose : Place → Prop}
    (op : Operation) (h : start.Custody s loose)
    (hstuck : ∀ q, ¬ (Request.delete q).Reaches faults → loose q) :
    SecretLink.KeepsCustody faults start loose op.perform s := by
  refine Operation.perform_induction (P := fun p => ∀ s : Store, start.Custody s loose →
    SecretLink.KeepsCustody faults start loose p s) ?_ ?_ ?_ ?_ op s h
  · exact fun hlink r data s h => SecretLink.create_custody hlink h hstuck r data
  · exact fun hlink space name data? apply happly s h =>
      SecretLink.update_custody hlink h space name data? happly
  · exact fun hlink space name s h => SecretLink.delete_custody hlink h hstuck space name
  · intro _ p hp s h
    have hsame {t : Store} (ht : t ∈ p.states (serveUnder faults) s) : start.Custody t loose :=
      h.same (hp faults s t ht)
    exact ⟨fun t ht => (hsame ht).mono fun _ _ => trivial,
      fun _ _ => hsame (Program.state_mem_states p s),
      fun _ _ => hsame (Program.state_mem_states p s)⟩

end ClusterAdmission
