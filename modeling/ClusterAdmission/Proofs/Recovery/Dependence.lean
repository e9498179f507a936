import ClusterAdmission.Proofs.Recovery

/-!
# What recovery windows depend on

A window depends on the instants at which successful backups were created and on nothing else of the
list (`Recovery.window?_congr`), and on the last upload. From 1970 on the uploads lie on a grid, and
the last one is found by rounding down to it (`Recovery.latestRestorable?_grid`).
-/

namespace ClusterAdmission.Recovery

variable {engine : EngineType} {as bs : List DatabaseClusterBackup} {b : DatabaseClusterBackup}
  {now later s t : Timestamp} {w : RecoveryWindow}

/-! ## Backups that count -/

/-- A backup is in the state of success and has a time of creation. -/
def Counts (engine : EngineType) (b : DatabaseClusterBackup) : Prop :=
  Resource.backupState b = engine.succeededState ∧ ∃ t, Resource.created b = some t

theorem exists_succeededAt : (∃ t, SucceededAt engine bs t) ↔ ∃ b ∈ bs, Counts engine b := by
  constructor
  · rintro ⟨t, b, hb, hstate, ht⟩
    exact ⟨b, hb, hstate, t, ht⟩
  · rintro ⟨b, hb, hstate, t, ht⟩
    exact ⟨t, b, hb, hstate, ht⟩

theorem SucceededAt.perm (h : as.Perm bs) (ht : SucceededAt engine as t) :
    SucceededAt engine bs t := by
  obtain ⟨b, hb, hat⟩ := ht
  exact ⟨b, h.mem_iff.1 hb, hat⟩

theorem succeededAt_insert : SucceededAt engine (as ++ b :: bs) t ↔
    SucceededAt engine (as ++ bs) t ∨
      Resource.backupState b = engine.succeededState ∧ Resource.created b = some t := by
  unfold SucceededAt
  constructor
  · rintro ⟨c, hc, hat⟩
    rcases List.mem_cons.1 (List.perm_middle.mem_iff.1 hc) with rfl | hc
    · exact .inr hat
    · exact .inl ⟨c, hc, hat⟩
  · rintro (⟨c, hc, hat⟩ | hat)
    · exact ⟨c, List.perm_middle.mem_iff.2 (List.mem_cons_of_mem _ hc), hat⟩
    · exact ⟨b, List.perm_middle.mem_iff.2 List.mem_cons_self, hat⟩

/-! ## Windows -/

/-- Lists with the same instants of success have the same window. -/
theorem window?_congr (h : ∀ t, SucceededAt engine as t ↔ SucceededAt engine bs t) :
    window? engine as now = window? engine bs now := by
  refine Option.ext fun w => ?_
  rw [window?_eq_some, window?_eq_some, earliest_iff, earliest_iff]
  simp only [h]

theorem exists_earliest (h : ∃ t, SucceededAt engine bs t) :
    ∃ t, (latestSuccessful? engine bs).bind Resource.created = some t := by
  obtain ⟨t, ht⟩ := h
  obtain ⟨b, hb⟩ := ht.latestSuccessful?
  obtain ⟨s, hs, -⟩ := (latestSuccessful?_eq_some hb).2 t ht
  exact ⟨s, by rw [hb, Option.bind_some, hs]⟩

theorem exists_window_iff : (∃ w, window? engine bs now = some w) ↔
    (∃ b ∈ bs, Counts engine b) ∧ ∃ t, latestRestorable? engine now = some t := by
  rw [← exists_succeededAt]
  constructor
  · rintro ⟨w, hw⟩
    obtain ⟨hearliest, hlatest⟩ := window?_eq_some.1 hw
    exact ⟨⟨w.earliest, (earliest_iff.1 hearliest).1⟩, w.latest, hlatest⟩
  · rintro ⟨hat, u, hlatest⟩
    obtain ⟨t, hearliest⟩ := exists_earliest hat
    exact ⟨⟨t, u⟩, window?_eq_some.2 ⟨hearliest, hlatest⟩⟩

/-- A further backup leaves a window where it is or moves its start to a later instant. -/
theorem window?_insert (h : window? engine (as ++ bs) now = some w) :
    ∃ w', window? engine (as ++ b :: bs) now = some w' ∧ w.earliest ≤ w'.earliest := by
  obtain ⟨hearliest, hlatest⟩ := window?_eq_some.1 h
  have hat : SucceededAt engine (as ++ b :: bs) w.earliest :=
    succeededAt_insert.2 (.inl (earliest_iff.1 hearliest).1)
  obtain ⟨t, ht⟩ := exists_earliest ⟨w.earliest, hat⟩
  exact ⟨⟨t, w.latest⟩, window?_eq_some.2 ⟨ht, hlatest⟩, (earliest_iff.1 ht).2 _ hat⟩

/-! ## Uploads -/

/-- What rounds down to the last upload: it is the greatest multiple of the period up to now, and
rounding again changes nothing. -/
structure LastUpload (engine : EngineType) (now t : Timestamp) : Prop where
  multiple : uploadPeriod engine ∣ t.nanoseconds
  le_now : t ≤ now
  greatest (n : Int) : uploadPeriod engine ∣ n → n ≤ now.nanoseconds → n ≤ t.nanoseconds
  fixed : latestRestorable? engine t = some t

theorem latestRestorable?_grid (engine : EngineType) (h : 0 ≤ now.nanoseconds) :
    ∃ t, latestRestorable? engine now = some t ∧ LastUpload engine now t := by
  obtain ⟨t, ht, hupload, hle, hlt⟩ := exists_latestRestorable? engine h
  have hgreatest (n : Int) (hn : uploadPeriod engine ∣ n) (hnow : n ≤ now.nanoseconds) :
      n ≤ t.nanoseconds :=
    le_of_dvd_of_lt hupload hn (Int.lt_of_le_of_lt hnow hlt)
  -- The epoch is an upload itself, so rounding down does not lead before it.
  have hnonneg : 0 ≤ t.nanoseconds := hgreatest 0 (Int.dvd_zero _) h
  have hfixed : latestRestorable? engine t = some t :=
    (latestRestorable?_eq_some hnonneg).2
      ⟨hupload, Int.le_refl _, Int.lt_add_of_pos_right _ (uploadPeriod_pos engine)⟩
  exact ⟨t, ht, hupload, hle, hgreatest, hfixed⟩

/-! ## The laws of windows -/

/-- What windows of an engine at an instant depend on. -/
structure WindowLaws (engine : EngineType) (now : Timestamp) : Prop where
  permuted (as bs : List DatabaseClusterBackup) : as.Perm bs →
    window? engine as now = window? engine bs now
  uncounted (as : List DatabaseClusterBackup) (b : DatabaseClusterBackup)
    (bs : List DatabaseClusterBackup) : ¬ Counts engine b →
    window? engine (as ++ b :: bs) now = window? engine (as ++ bs) now
  exists_iff (bs : List DatabaseClusterBackup) : (∃ w, window? engine bs now = some w) ↔
    (∃ b ∈ bs, Counts engine b) ∧ ∃ t, latestRestorable? engine now = some t
  /-- A window starts at the last creation of a backup that counts. -/
  earliest (bs : List DatabaseClusterBackup) (w : RecoveryWindow) :
    window? engine bs now = some w →
      (∃ b ∈ bs, Counts engine b ∧ Resource.created b = some w.earliest) ∧
      ∀ b ∈ bs, Counts engine b → ∀ t, Resource.created b = some t → t ≤ w.earliest
  added (as : List DatabaseClusterBackup) (b : DatabaseClusterBackup)
    (bs : List DatabaseClusterBackup) (w : RecoveryWindow) :
    window? engine (as ++ bs) now = some w →
      ∃ w', window? engine (as ++ b :: bs) now = some w' ∧ w.earliest ≤ w'.earliest
  latest (bs : List DatabaseClusterBackup) (w : RecoveryWindow) :
    window? engine bs now = some w → latestRestorable? engine now = some w.latest

theorem windowLaws (engine : EngineType) (now : Timestamp) : WindowLaws engine now where
  permuted as bs hperm := window?_congr fun _ => ⟨.perm hperm, .perm hperm.symm⟩
  uncounted as b bs hb := by
    refine window?_congr fun t => succeededAt_insert.trans (or_iff_left ?_)
    exact fun ⟨hstate, ht⟩ => hb ⟨hstate, t, ht⟩
  exists_iff bs := exists_window_iff
  earliest bs w hw := by
    obtain ⟨⟨b, hb, hstate, hcreated⟩, hmax⟩ := earliest_iff.1 (window?_eq_some.1 hw).1
    refine ⟨⟨b, hb, ⟨hstate, w.earliest, hcreated⟩, hcreated⟩, fun c hc hcounts t ht => ?_⟩
    exact hmax t ⟨c, hc, hcounts.1, ht⟩
  added as b bs w hw := window?_insert hw
  latest bs w hw := (window?_eq_some.1 hw).2

/-- Windows depend only on the backups that count, and from 1970 on the last upload is rounding down
to a multiple of the interval, which keeps the order of instants. -/
theorem window_dependence (engine : EngineType) :
    (∀ now, WindowLaws engine now) ∧
    (∀ now, 0 ≤ now.nanoseconds →
      ∃ t, latestRestorable? engine now = some t ∧ LastUpload engine now t) ∧
    ∀ now later s t, 0 ≤ now.nanoseconds → now ≤ later →
      latestRestorable? engine now = some s → latestRestorable? engine later = some t → s ≤ t := by
  refine ⟨windowLaws engine, fun now h => latestRestorable?_grid engine h,
    fun now later s t h hle hs ht => ?_⟩
  obtain ⟨s', hs', hlast⟩ := latestRestorable?_grid engine h
  cases hs.symm.trans hs'
  obtain ⟨t', ht', hlast'⟩ := latestRestorable?_grid engine (Int.le_trans h hle)
  cases ht.symm.trans ht'
  exact hlast'.greatest s.nanoseconds hlast.multiple (Int.le_trans hlast.le_now hle)

namespace Sample

/-- A backup of which nothing is reported yet. -/
def queued : DatabaseClusterBackup := { backupOf between with status := none }

theorem not_counts_queued : ¬ Counts .pxc queued := by
  rintro ⟨-, t, ht⟩
  cases ht

end Sample

/-- Of three backups in any order the one at 10:17:30 counts, and the last upload before 10:17:42 is
not before the one at 10:17:00. -/
theorem window_dependence_of_sample :
    (∀ bs,
      [Sample.backupOf Sample.uploaded, Sample.queued, Sample.backupOf Sample.between].Perm bs →
        window? .pxc bs Sample.present = some ⟨Sample.between, Sample.uploaded⟩) ∧
    0 ≤ Sample.between.nanoseconds ∧ Sample.between ≤ Sample.present ∧
    ∃ t, latestRestorable? .pxc Sample.present = some t ∧ LastUpload .pxc Sample.present t ∧
      Sample.uploaded ≤ t := by
  obtain ⟨hwindows, huploads, hmonotone⟩ := window_dependence .pxc
  have hnonneg : 0 ≤ Sample.between.nanoseconds := by decide
  have hle : Sample.between ≤ Sample.present := by decide
  refine ⟨fun bs hperm => ?_, hnonneg, hle, ?_⟩
  · have hpair : window? .pxc [Sample.backupOf Sample.uploaded, Sample.backupOf Sample.between]
        Sample.present = some ⟨Sample.between, Sample.uploaded⟩ := by decide +kernel
    have laws := hwindows Sample.present
    rw [← laws.permuted _ bs hperm, ← hpair]
    exact laws.uncounted [Sample.backupOf Sample.uploaded] Sample.queued
      [Sample.backupOf Sample.between] Sample.not_counts_queued
  · have huploaded : latestRestorable? .pxc Sample.between = some Sample.uploaded := by
      decide +kernel
    obtain ⟨t, ht, hlast⟩ := huploads Sample.present (Int.le_trans hnonneg hle)
    exact ⟨t, ht, hlast, hmonotone _ _ _ t hnonneg hle huploaded ht⟩

end ClusterAdmission.Recovery
