import ClusterAdmission.Recovery

/-!
# Recovery windows

What a recovery window consists of: it starts when the latest dated backup in the state of success
was created (`Recovery.earliest_iff`) and ends at the last upload of the log
(`Recovery.latestRestorable?_eq_some`). The two are computed apart from each other, and the window of
a backup that is newer than the last upload ends before it starts. `Recovery.window_ordered_iff` says
that this is the only case.
-/

namespace ClusterAdmission

namespace Timestamp

instance : LE Timestamp where
  le s t := s.nanoseconds ≤ t.nanoseconds

instance : DecidableLE Timestamp :=
  fun s t => inferInstanceAs (Decidable (s.nanoseconds ≤ t.nanoseconds))

theorem le_iff {s t : Timestamp} : s ≤ t ↔ s.nanoseconds ≤ t.nanoseconds := .rfl

theorem le_antisymm {s t : Timestamp} (h : s ≤ t) (h' : t ≤ s) : s = t := by
  have hnanoseconds : s.nanoseconds = t.nanoseconds := Int.le_antisymm h h'
  cases s
  cases t
  cases hnanoseconds
  rfl

theorem ofNanoseconds?_eq_some {n : Int} {t : Timestamp} :
    ofNanoseconds? n = some t ↔ t.nanoseconds = n := by
  unfold ofNanoseconds?
  constructor
  · intro h
    split at h
    · cases h
      rfl
    · cases h
  · rintro rfl
    rw [dif_pos ⟨t.min_le, t.lt_max⟩]

end Timestamp

namespace Recovery

variable {engine : EngineType} {bs : List DatabaseClusterBackup} {a b c : DatabaseClusterBackup}
  {now t : Timestamp} {w : RecoveryWindow}

/-! ## The latest backup -/

/-- A backup was created no later than another; one without a time is before all others. -/
def NoLater (a b : DatabaseClusterBackup) : Prop :=
  ∀ s, Resource.created a = some s → ∃ t, Resource.created b = some t ∧ s ≤ t

theorem NoLater.refl (a : DatabaseClusterBackup) : NoLater a a :=
  fun s hs => ⟨s, hs, Int.le_refl _⟩

theorem NoLater.trans (hab : NoLater a b) (hbc : NoLater b c) : NoLater a c := by
  intro s hs
  obtain ⟨t, ht, hst⟩ := hab s hs
  obtain ⟨u, hu, htu⟩ := hbc t ht
  exact ⟨u, hu, Int.le_trans hst htu⟩

theorem noLater_iff : NoLater a b ↔ isCreatedBefore b a = false := by
  unfold NoLater isCreatedBefore
  cases Resource.created a <;> cases Resource.created b <;> simp [Timestamp.le_iff]

theorem noLater_of_before (h : isCreatedBefore a b) : NoLater a b := by
  rw [noLater_iff]
  unfold isCreatedBefore at h ⊢
  cases hb : Resource.created b with
  | none => simp [hb] at h
  | some t =>
    cases ha : Resource.created a with
    | none => rfl
    | some s =>
      rw [ha, hb] at h
      exact decide_eq_false (Int.lt_asymm (of_decide_eq_true h))

theorem later_eq (a b : DatabaseClusterBackup) : later a b = a ∨ later a b = b := by
  unfold later
  split
  · exact .inl rfl
  · exact .inr rfl

theorem noLater_later (a b : DatabaseClusterBackup) :
    NoLater a (later a b) ∧ NoLater b (later a b) := by
  unfold later
  split
  · next h => exact ⟨.refl a, noLater_of_before h⟩
  · next h => exact ⟨noLater_iff.2 (Bool.eq_false_iff.2 h), .refl b⟩

theorem foldl_later (bs : List DatabaseClusterBackup) (b : DatabaseClusterBackup) :
    bs.foldl later b ∈ b :: bs ∧ ∀ c ∈ b :: bs, NoLater c (bs.foldl later b) := by
  induction bs generalizing b with
  | nil => simp [NoLater.refl]
  | cons c cs ih =>
    obtain ⟨hmem, hmax⟩ := ih (later b c)
    obtain ⟨hb, hc⟩ := noLater_later b c
    have hlater := hmax _ List.mem_cons_self
    simp only [List.foldl_cons, List.forall_mem_cons]
    refine ⟨?_, hb.trans hlater, hc.trans hlater, (List.forall_mem_cons.1 hmax).2⟩
    rcases List.mem_cons.1 hmem with heq | hrest
    · rw [heq]
      rcases later_eq b c with heq | heq <;> rw [heq] <;> simp
    · exact List.mem_cons_of_mem _ (List.mem_cons_of_mem _ hrest)

theorem latest?_eq_some (h : latest? bs = some b) : b ∈ bs ∧ ∀ c ∈ bs, NoLater c b := by
  cases bs with
  | nil => cases h
  | cons c cs =>
    cases h
    exact foldl_later cs c

/-- A backup of a list is in the state of success and was created at an instant. -/
def SucceededAt (engine : EngineType) (bs : List DatabaseClusterBackup) (t : Timestamp) : Prop :=
  ∃ b ∈ bs, Resource.backupState b = engine.succeededState ∧ Resource.created b = some t

theorem SucceededAt.latestSuccessful? (h : SucceededAt engine bs t) :
    ∃ b, latestSuccessful? engine bs = some b := by
  obtain ⟨b, hb, hstate, -⟩ := h
  have hmem : b ∈ bs.filter fun b => Resource.backupState b = engine.succeededState :=
    List.mem_filter.2 ⟨hb, decide_eq_true hstate⟩
  unfold Recovery.latestSuccessful?
  cases hfilter : bs.filter fun b => Resource.backupState b = engine.succeededState with
  | nil => simp [hfilter] at hmem
  | cons c cs => exact ⟨_, rfl⟩

theorem latestSuccessful?_eq_some (h : latestSuccessful? engine bs = some b) :
    (∀ t, Resource.created b = some t → SucceededAt engine bs t) ∧
      ∀ u, SucceededAt engine bs u → ∃ t, Resource.created b = some t ∧ u ≤ t := by
  obtain ⟨hmem, hmax⟩ := latest?_eq_some h
  obtain ⟨hb, hstate⟩ := List.mem_filter.1 hmem
  refine ⟨fun t ht => ⟨b, hb, of_decide_eq_true hstate, ht⟩, ?_⟩
  rintro u ⟨c, hc, hstate, hu⟩
  exact hmax c (List.mem_filter.2 ⟨hc, decide_eq_true hstate⟩) u hu

/-- A window starts at the last instant at which a backup that succeeded was created. -/
theorem earliest_iff : (latestSuccessful? engine bs).bind Resource.created = some t ↔
    SucceededAt engine bs t ∧ ∀ u, SucceededAt engine bs u → u ≤ t := by
  constructor
  · intro h
    obtain ⟨b, hb, ht⟩ := Option.bind_eq_some_iff.1 h
    obtain ⟨hat, hlast⟩ := latestSuccessful?_eq_some hb
    refine ⟨hat t ht, fun u hu => ?_⟩
    obtain ⟨t', ht', hle⟩ := hlast u hu
    cases ht.symm.trans ht'
    exact hle
  · rintro ⟨ht, hmax⟩
    obtain ⟨b, hb⟩ := ht.latestSuccessful?
    obtain ⟨hat, hlast⟩ := latestSuccessful?_eq_some hb
    obtain ⟨t', ht', hle⟩ := hlast t ht
    have heq := Timestamp.le_antisymm hle (hmax t' (hat t' ht'))
    rw [hb, Option.bind_some, ht', heq]

/-! ## The last upload -/

/-- The nanoseconds between two uploads of logs. -/
def uploadPeriod (engine : EngineType) : Int := engine.uploadInterval * Timestamp.perSecond

/-- The log was uploaded at an instant: uploads are at multiples of the interval. -/
def IsUpload (engine : EngineType) (t : Timestamp) : Prop := uploadPeriod engine ∣ t.nanoseconds

theorem uploadPeriod_pos (engine : EngineType) : 0 < uploadPeriod engine := by
  cases engine <;> decide

/-- An instant rounded down to an upload, by seconds as by nanoseconds. -/
theorem nanoseconds_latestRestorable (h : 0 ≤ now.nanoseconds) :
    (now.second - now.second % engine.uploadInterval) * Timestamp.perSecond =
      now.nanoseconds - now.nanoseconds % uploadPeriod engine := by
  rw [Timestamp.second, Int.tdiv_eq_ediv_of_nonneg h]
  cases engine <;> simp only [EngineType.uploadInterval, uploadPeriod, Timestamp.perSecond] <;>
    omega

/-- No multiple of the period lies between one and the end of its period. -/
theorem le_of_dvd_of_lt {m n : Int} (hm : uploadPeriod engine ∣ m) (hn : uploadPeriod engine ∣ n)
    (hlt : n < m + uploadPeriod engine) : n ≤ m := by
  obtain ⟨j, rfl⟩ := hm
  obtain ⟨k, rfl⟩ := hn
  have hpos := uploadPeriod_pos engine
  have hnext : uploadPeriod engine * (j + 1) = uploadPeriod engine * j + uploadPeriod engine := by
    rw [Int.mul_add, Int.mul_one]
  rw [← hnext] at hlt
  have hle : k ≤ j := Int.le_of_lt_add_one (Int.lt_of_mul_lt_mul_left hlt (Int.le_of_lt hpos))
  exact Int.mul_le_mul_of_nonneg_left hle (Int.le_of_lt hpos)

/-- No upload lies between an upload and the end of its period. -/
theorem IsUpload.le {u : Timestamp} (hu : IsUpload engine u) (ht : IsUpload engine t)
    (hlt : u.nanoseconds < t.nanoseconds + uploadPeriod engine) : u ≤ t :=
  le_of_dvd_of_lt ht hu hlt

theorem exists_latestRestorable? (engine : EngineType) (h : 0 ≤ now.nanoseconds) :
    ∃ t, latestRestorable? engine now = some t ∧ IsUpload engine t ∧ t ≤ now ∧
      now.nanoseconds < t.nanoseconds + uploadPeriod engine := by
  have hpos := uploadPeriod_pos engine
  have hnonneg := Int.emod_nonneg now.nanoseconds (Int.ne_of_gt hpos)
  have hlt := Int.emod_lt_of_pos now.nanoseconds hpos
  have hle : now.nanoseconds % uploadPeriod engine ≤ now.nanoseconds := by
    have hsplit := Int.mul_ediv_add_emod now.nanoseconds (uploadPeriod engine)
    have hquotient := Int.mul_nonneg (Int.le_of_lt hpos) (Int.ediv_nonneg h (Int.le_of_lt hpos))
    omega
  have hmin : Timestamp.minSecond * Timestamp.perSecond ≤ 0 := by decide
  have hmax := now.lt_max
  let t : Timestamp :=
    ⟨now.nanoseconds - now.nanoseconds % uploadPeriod engine, by omega, by omega⟩
  refine ⟨t, ?_, Int.dvd_self_sub_emod, Int.sub_le_self _ hnonneg, ?_⟩
  · rw [latestRestorable?, Timestamp.ofSecond?, Timestamp.ofNanoseconds?_eq_some,
      nanoseconds_latestRestorable h]
  · change now.nanoseconds <
      now.nanoseconds - now.nanoseconds % uploadPeriod engine + uploadPeriod engine
    omega

/-- From 1970 on a window ends at the upload in whose period now lies. -/
theorem latestRestorable?_eq_some (h : 0 ≤ now.nanoseconds) :
    latestRestorable? engine now = some t ↔
      IsUpload engine t ∧ t ≤ now ∧ now.nanoseconds < t.nanoseconds + uploadPeriod engine := by
  obtain ⟨t', ht', hupload', hle', hlt'⟩ := exists_latestRestorable? engine h
  constructor
  · intro ht
    cases ht'.symm.trans ht
    exact ⟨hupload', hle', hlt'⟩
  · rintro ⟨hupload, hle, hlt⟩
    rw [ht', Timestamp.le_antisymm (hupload'.le hupload (Int.lt_of_le_of_lt hle' hlt))
      (hupload.le hupload' (Int.lt_of_le_of_lt hle hlt'))]

/-! ## Windows -/

theorem window?_eq_some : window? engine bs now = some w ↔
    (latestSuccessful? engine bs).bind Resource.created = some w.earliest ∧
      latestRestorable? engine now = some w.latest := by
  obtain ⟨earliest, latest⟩ := w
  simp only [window?, bind, pure, Option.bind_eq_some_iff, Option.some.injEq,
    RecoveryWindow.mk.injEq]
  constructor
  · rintro ⟨b, hb, t, ht, u, hu, rfl, rfl⟩
    exact ⟨⟨b, hb, ht⟩, hu⟩
  · rintro ⟨⟨b, hb, ht⟩, hu⟩
    exact ⟨b, hb, _, ht, _, hu, rfl, rfl⟩

/-- A window starts and ends in the past, and it starts before it ends exactly if the log was
uploaded after every backup that succeeded. Otherwise it ends less than a period too early. -/
theorem window_ordered_iff (hnow : 0 ≤ now.nanoseconds)
    (hpast : ∀ b ∈ bs, ∀ t, Resource.created b = some t → t ≤ now)
    (h : window? engine bs now = some w) :
    w.earliest ≤ now ∧ w.latest ≤ now ∧
    (w.earliest ≤ w.latest ↔
      ∀ t, SucceededAt engine bs t → ∃ u, IsUpload engine u ∧ t ≤ u ∧ u ≤ now) ∧
    w.earliest.nanoseconds < w.latest.nanoseconds + uploadPeriod engine := by
  obtain ⟨hearliest, hlatest⟩ := window?_eq_some.1 h
  obtain ⟨hat, hmax⟩ := earliest_iff.1 hearliest
  obtain ⟨hupload, hle, hlt⟩ := (latestRestorable?_eq_some hnow).1 hlatest
  have hearlier : w.earliest ≤ now := by
    obtain ⟨b, hb, -, hcreated⟩ := hat
    exact hpast b hb _ hcreated
  refine ⟨hearlier, hle, ⟨fun hordered t ht => ?_, fun huploaded => ?_⟩,
    Int.lt_of_le_of_lt hearlier hlt⟩
  · exact ⟨w.latest, hupload, Int.le_trans (hmax t ht) hordered, hle⟩
  · obtain ⟨u, hu, hafter, hbefore⟩ := huploaded _ hat
    exact Int.le_trans hafter (hu.le hupload (Int.lt_of_le_of_lt hbefore hlt))

namespace Sample

/-- On 2024-05-01 the log is uploaded at 10:17:00. -/
def uploaded : Timestamp := ⟨1714558620 * Timestamp.perSecond, by decide, by decide⟩

/-- It is 10:17:42. -/
def present : Timestamp := ⟨1714558662 * Timestamp.perSecond, by decide, by decide⟩

/-- A backup is created at 10:17:30. -/
def between : Timestamp := ⟨1714558650 * Timestamp.perSecond, by decide, by decide⟩

/-- A backup that succeeded. -/
def backupOf (created : Timestamp) : DatabaseClusterBackup where
  metadata := { name := some "fresh", space := some "ns" }
  spec := { dbClusterName := "db", backupStorageName := "s3" }
  status := some { state := "Succeeded", created := some created }

theorem created_backupOf {b : DatabaseClusterBackup} (hb : b ∈ [backupOf t])
    {u : Timestamp} (hu : Resource.created b = some u) : u = t := by
  rw [List.mem_singleton.1 hb] at hu
  exact (Option.some.inj hu).symm

end Sample

/-- A backup that was created with the last upload: the window is that instant. -/
theorem window_ordered_iff_of_sample :
    window? .pxc [Sample.backupOf Sample.uploaded] Sample.present =
      some ⟨Sample.uploaded, Sample.uploaded⟩ ∧ Sample.uploaded ≤ Sample.uploaded := by
  have hwindow : window? .pxc [Sample.backupOf Sample.uploaded] Sample.present =
      some ⟨Sample.uploaded, Sample.uploaded⟩ := by decide +kernel
  have hpast : Sample.uploaded ≤ Sample.present := by decide
  have hupload : IsUpload .pxc Sample.uploaded := by
    unfold IsUpload
    decide
  obtain ⟨-, -, hordered, -⟩ := window_ordered_iff (by decide)
    (fun _ hb _ hu => Sample.created_backupOf hb hu ▸ hpast) hwindow
  refine ⟨hwindow, hordered.2 ?_⟩
  rintro t ⟨b, hb, -, ht⟩
  cases Sample.created_backupOf hb ht
  exact ⟨_, hupload, Int.le_refl _, hpast⟩

/-- A backup that was created since the last upload has a window that ends before it starts. -/
theorem window_of_fresh_backup :
    0 ≤ Sample.present.nanoseconds ∧
      (∀ b ∈ [Sample.backupOf Sample.between], ∀ t, Resource.created b = some t →
        t ≤ Sample.present) ∧
      window? .pxc [Sample.backupOf Sample.between] Sample.present =
        some ⟨Sample.between, Sample.uploaded⟩ ∧
      ¬ Sample.between ≤ Sample.uploaded := by
  refine ⟨by decide, fun b hb t ht => ?_, by decide +kernel, by decide⟩
  rw [Sample.created_backupOf hb ht]
  decide

end Recovery

end ClusterAdmission
