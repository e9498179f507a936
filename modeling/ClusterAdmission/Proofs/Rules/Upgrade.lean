import ClusterAdmission.Proofs.Version.Precedence
import ClusterAdmission.Rules.Upgrade

/-!
# Verdicts on changes of version

A change from one version to another has exactly one verdict (`Rules.UpgradeVerdict`). Of two
versions that can be read, it passes if the new one is not below the old one and its major version
is not too high (`Rules.upgrade_eq_ok_iff`). Both conditions can be followed along a chain of
changes, so what is admitted in two steps is admitted in one, unless the two have raised the major
version by more than one step may (`Rules.upgrades_consistent`).
-/

namespace ClusterAdmission.Rules

/-- By how much one change may raise the major version. -/
def maxMajorRise : EngineType → Nat
  | .pxc | .postgresql => 0
  | .psmdb => 1

/-- What is wrong with raising the major version by more than that. -/
def majorViolation : EngineType → String → String → Violation
  | .pxc | .postgresql => .majorUpgrade
  | .psmdb => .nonSequentialMajorUpgrade

/-- The verdict on a change from the version `old` to another version `new`. -/
inductive UpgradeVerdict (engine : EngineType) (old new : String) : Verdict → Prop
  | invalidOld : Version.parse? old = none →
    UpgradeVerdict engine old new (.error (.invalidVersion old))
  | invalidNew {v : Version} : Version.parse? old = some v → Version.parse? new = none →
    UpgradeVerdict engine old new (.error (.invalidVersion new))
  | downgrade {v w : Version} : Version.parse? old = some v → Version.parse? new = some w →
    w.Below v → UpgradeVerdict engine old new (.error (.downgrade old new))
  /-- Only MongoDB clusters move to a higher major version. -/
  | major {v w : Version} : Version.parse? old = some v → Version.parse? new = some w →
    ¬ w.Below v → engine ≠ .psmdb → v.major.toNat < w.major.toNat →
    UpgradeVerdict engine old new (.error (.majorUpgrade old new))
  /-- MongoDB clusters do not skip a major version. -/
  | nonSequential {v w : Version} : Version.parse? old = some v → Version.parse? new = some w →
    ¬ w.Below v → engine = .psmdb → v.major.toNat + 1 < w.major.toNat →
    UpgradeVerdict engine old new (.error (.nonSequentialMajorUpgrade old new))
  | passes {v w : Version} : Version.parse? old = some v → Version.parse? new = some w →
    ¬ w.Below v → w.major.toNat ≤ v.major.toNat + maxMajorRise engine →
    UpgradeVerdict engine old new (.ok ())

variable {engine : EngineType} {old new : String} {u v w : Version}

/-- Only MongoDB clusters may raise the major version. -/
theorem maxMajorRise_eq_zero (h : engine ≠ .psmdb) : maxMajorRise engine = 0 := by
  cases engine with
  | pxc | postgresql => rfl
  | psmdb => exact absurd rfl h

/-! ## What the rule computes -/

theorem version_eq_ok {text : String} : version text = .ok v ↔ Version.parse? text = some v := by
  unfold version
  cases Version.parse? text with
  | none => simp
  | some w => simp

/-- Below another number there is room for one more. -/
theorem toNat_succ_of_lt {a b : UInt64} (h : a < b) : (a + 1).toNat = a.toNat + 1 := by
  rw [UInt64.lt_iff_toNat_lt] at h
  have hb : b.toNat < 2 ^ 64 := b.toNat_lt
  rw [UInt64.toNat_add, UInt64.toNat_one, Nat.mod_eq_of_lt (by omega)]

theorem majorStep_eq (h : v.major < w.major) :
    majorStep engine v.major w.major =
      if w.major.toNat ≤ v.major.toNat + maxMajorRise engine then none
      else some (majorViolation engine) := by
  have hlt : v.major.toNat < w.major.toNat := UInt64.lt_iff_toNat_lt.1 h
  cases engine with
  | psmdb =>
    have hnext : w.major = v.major + 1 ↔ w.major.toNat ≤ v.major.toNat + 1 := by
      rw [← UInt64.toNat_inj, toNat_succ_of_lt h]
      omega
    exact ite_congr (propext hnext) (fun _ => rfl) fun _ => rfl
  | pxc | postgresql =>
    rw [if_neg (by simp only [maxMajorRise]; omega)]
    rfl

/-- What a change between two versions that can be read is answered with. -/
theorem upgrade_of_versions (hne : old ≠ new) (hv : Version.parse? old = some v)
    (hw : Version.parse? new = some w) :
    upgrade engine old new =
      if w.below v then .error (.downgrade old new)
      else if w.major.toNat ≤ v.major.toNat + maxMajorRise engine then .ok ()
      else .error (majorViolation engine old new) := by
  have hold : old ≠ "" := by
    rintro rfl
    cases hv
  have hnew : new ≠ "" := by
    rintro rfl
    cases hw
  rw [upgrade, if_neg (by simp [hne, hold, hnew]), version_eq_ok.2 hv, version_eq_ok.2 hw]
  simp only [bind, Except.bind]
  cases w.below v with
  | true => rfl
  | false =>
    change (if v.major < w.major then _ else _) = _
    rw [if_neg Bool.false_ne_true]
    by_cases hrise : v.major < w.major
    · rw [if_pos hrise, majorStep_eq hrise]
      by_cases hmajor : w.major.toNat ≤ v.major.toNat + maxMajorRise engine
      · rw [if_pos hmajor, if_pos hmajor]
      · rw [if_neg hmajor, if_neg hmajor]
    · have hle : w.major.toNat ≤ v.major.toNat :=
        UInt64.le_iff_toNat_le.1 (UInt64.not_lt.1 hrise)
      rw [if_neg hrise, if_pos (Nat.le_add_right_of_le hle)]
      rfl

theorem upgrade_of_invalid_old (hold : old ≠ "") (hnew : new ≠ "") (hne : old ≠ new)
    (hv : Version.parse? old = none) :
    upgrade engine old new = .error (.invalidVersion old) := by
  rw [upgrade, if_neg (by simp [hold, hnew, hne]), version, hv]
  rfl

theorem upgrade_of_invalid_new (hold : old ≠ "") (hnew : new ≠ "") (hne : old ≠ new)
    (hv : Version.parse? old = some v) (hw : Version.parse? new = none) :
    upgrade engine old new = .error (.invalidVersion new) := by
  rw [upgrade, if_neg (by simp [hold, hnew, hne]), version_eq_ok.2 hv, version, hw]
  rfl

theorem upgradeVerdict_upgrade (hold : old ≠ "") (hnew : new ≠ "") (hne : old ≠ new) :
    UpgradeVerdict engine old new (upgrade engine old new) := by
  cases hv : Version.parse? old with
  | none =>
    rw [upgrade_of_invalid_old hold hnew hne hv]
    exact .invalidOld hv
  | some v =>
    cases hw : Version.parse? new with
    | none =>
      rw [upgrade_of_invalid_new hold hnew hne hv hw]
      exact .invalidNew hv hw
    | some w =>
      rw [upgrade_of_versions hne hv hw]
      split
      · next hbelow => exact .downgrade hv hw (Version.below_iff.1 hbelow)
      · next hbelow =>
        have hnotBelow : ¬ w.Below v := fun h => hbelow (Version.below_iff.2 h)
        split
        · next hmajor => exact .passes hv hw hnotBelow hmajor
        · next hmajor =>
          cases engine with
          | psmdb => exact .nonSequential hv hw hnotBelow rfl (Nat.not_le.1 hmajor)
          | pxc | postgresql => exact .major hv hw hnotBelow (by decide) (Nat.not_le.1 hmajor)

theorem UpgradeVerdict.upgrade_eq {verdict : Verdict} (h : UpgradeVerdict engine old new verdict)
    (hold : old ≠ "") (hnew : new ≠ "") (hne : old ≠ new) :
    upgrade engine old new = verdict := by
  cases h with
  | invalidOld hv => exact upgrade_of_invalid_old hold hnew hne hv
  | invalidNew hv hw => exact upgrade_of_invalid_new hold hnew hne hv hw
  | downgrade hv hw hbelow =>
    rw [upgrade_of_versions hne hv hw, if_pos (Version.below_iff.2 hbelow)]
  | major hv hw hbelow hengine hmajor =>
    rw [upgrade_of_versions hne hv hw, if_neg fun h => hbelow (Version.below_iff.1 h)]
    cases engine with
    | pxc | postgresql => exact if_neg (Nat.not_le.2 hmajor)
    | psmdb => exact absurd rfl hengine
  | nonSequential hv hw hbelow hengine hmajor =>
    subst hengine
    rw [upgrade_of_versions hne hv hw, if_neg fun h => hbelow (Version.below_iff.1 h)]
    exact if_neg (Nat.not_le.2 hmajor)
  | passes hv hw hbelow hmajor =>
    rw [upgrade_of_versions hne hv hw, if_neg fun h => hbelow (Version.below_iff.1 h),
      if_pos hmajor]

/-! ## Changes that pass -/

/-- A change between two versions that can be read passes. -/
structure Admits (engine : EngineType) (old new : String) : Prop where
  readsOld : ∃ v, Version.parse? old = some v
  readsNew : ∃ w, Version.parse? new = some w
  passes : upgrade engine old new = .ok ()

theorem upgrade_eq_ok_iff (hv : Version.parse? old = some v) (hw : Version.parse? new = some w) :
    upgrade engine old new = .ok () ↔
      w.below v = false ∧ w.major.toNat ≤ v.major.toNat + maxMajorRise engine := by
  by_cases hne : old = new
  · -- A version is not below itself.
    subst hne
    obtain rfl := Option.some.inj (hv.symm.trans hw)
    refine iff_of_true (if_pos (.inl rfl)) ⟨v.not_below_self, Nat.le_add_right _ _⟩
  · rw [upgrade_of_versions hne hv hw]
    cases w.below v with
    | true => simp
    | false => simp

theorem admits_iff (hv : Version.parse? old = some v) (hw : Version.parse? new = some w) :
    Admits engine old new ↔
      w.below v = false ∧ w.major.toNat ≤ v.major.toNat + maxMajorRise engine :=
  ⟨fun h => (upgrade_eq_ok_iff hv hw).1 h.passes,
    fun h => ⟨⟨v, hv⟩, ⟨w, hw⟩, (upgrade_eq_ok_iff hv hw).2 h⟩⟩

/-- Two changes that pass are one that passes if and only if the major version does not rise too
far. -/
theorem Admits.trans_iff {a b c : String} (hab : Admits engine a b) (hbc : Admits engine b c)
    (hu : Version.parse? a = some u) (hw : Version.parse? c = some w) :
    Admits engine a c ↔ w.major.toNat ≤ u.major.toNat + maxMajorRise engine := by
  obtain ⟨v, hv⟩ := hab.readsNew
  have hvu := ((admits_iff hu hv).1 hab).1
  have hwv := ((admits_iff hv hw).1 hbc).1
  rw [admits_iff hu hw]
  exact and_iff_right (Version.not_below_trans hvu hwv)

/-- The verdicts on changes of version make up one policy. -/
structure ConsistentUpgrades (engine : EngineType) : Prop where
  /-- A change from one version to another has the one verdict that fits. -/
  verdict (old new : String) (verdict : Verdict) : old ≠ "" → new ≠ "" → old ≠ new →
    (upgrade engine old new = verdict ↔ UpgradeVerdict engine old new verdict)
  /-- Where the next major version is computed, it is a number of 64 bits. -/
  next_major (v w : Version) : v.major < w.major → (v.major + 1).toNat = v.major.toNat + 1
  transitive (a b c : String) : engine ≠ .psmdb →
    Admits engine a b → Admits engine b c → Admits engine a c
  composes (a b c : String) (u w : Version) : engine = .psmdb → Admits engine a b →
    Admits engine b c → Version.parse? a = some u → Version.parse? c = some w →
    (Admits engine a c ↔ w.major.toNat ≤ u.major.toNat + 1)

theorem upgrades_consistent (engine : EngineType) : ConsistentUpgrades engine where
  verdict old new verdict hold hnew hne :=
    ⟨fun h => h ▸ upgradeVerdict_upgrade hold hnew hne, fun h => h.upgrade_eq hold hnew hne⟩
  next_major v w h := toNat_succ_of_lt h
  transitive a b c hengine hab hbc := by
    obtain ⟨u, hu⟩ := hab.readsOld
    obtain ⟨v, hv⟩ := hab.readsNew
    obtain ⟨w, hw⟩ := hbc.readsNew
    have hvu := ((admits_iff hu hv).1 hab).2
    have hwv := ((admits_iff hv hw).1 hbc).2
    rw [maxMajorRise_eq_zero hengine, Nat.add_zero] at hvu hwv
    exact (hab.trans_iff hbc hu hw).2 (Nat.le_add_right_of_le (Nat.le_trans hwv hvu))
  composes a b c u w hengine hab hbc hu hw := by
    subst hengine
    exact hab.trans_iff hbc hu hw

/-- Two admitted steps of a MongoDB cluster that raise the major version are not one. -/
theorem upgrades_consistent_of_sample :
    Admits .psmdb "6.0.9-7" "7.0.2" ∧ Admits .psmdb "7.0.2" "v8" ∧
      ¬ Admits .psmdb "6.0.9-7" "v8" := by
  have hfrom : Version.parse? "6.0.9-7" = some ⟨6, 0, 9, [.number 7], []⟩ := by decide
  have hvia : Version.parse? "7.0.2" = some ⟨7, 0, 2, [], []⟩ := by decide
  have hto : Version.parse? "v8" = some ⟨8, 0, 0, [], []⟩ := by decide
  have hfirst : Admits .psmdb "6.0.9-7" "7.0.2" := (admits_iff hfrom hvia).2 (by decide)
  have hsecond : Admits .psmdb "7.0.2" "v8" := (admits_iff hvia hto).2 (by decide)
  refine ⟨hfirst, hsecond, fun hboth => ?_⟩
  have hmajor := ((upgrades_consistent .psmdb).composes _ _ _ _ _ rfl hfirst hsecond hfrom hto).1
    hboth
  exact absurd hmajor (by decide)

end ClusterAdmission.Rules
