import ClusterAdmission.Proofs.Quantity
import ClusterAdmission.Proofs.Rules.Cluster

/-!
# Amounts of resources

A cluster writes down how much CPU, memory and storage it asks for, and the settings how much is the
least. The rule compares the binary64 values, so it lets an amount pass that is positive and not too
small, and any amount of which the comparison says nothing (`Rules.resources_pass_iff`). Zero times
a power of ten that overflows is such an amount (`zero_cpu_passes`).
-/

namespace ClusterAdmission

/-- An amount as it is written, if it is given, and the least one that the settings accept. -/
structure Amount where
  text : Option String
  minimum : String

/-- An amount and its minimum are given and read as quantities. -/
def Amount.Reads (a : Amount) (q minimum : Quantity) : Prop :=
  ∃ text, Text.nonblank? a.text = some text ∧ Quantity.parse? text = some q ∧
    Quantity.parse? a.minimum = some minimum

/-- An amount that is positive and whose value is not below that of its minimum, or of which
comparing the values says nothing: one of them is "not a number", or both are zero. -/
def Amount.Passes (a : Amount) : Prop :=
  ∃ q minimum, a.Reads q minimum ∧
    (q.value.Undecided minimum.value ∨ 0 < q.exact ∧ q.value.lt minimum.value = false)

/-- The amounts that an engine asks for. -/
def EngineSpec.amounts (e : EngineSpec) (config : PolicyConfig) : List Amount :=
  [⟨e.resources.cpu, config.minCpu⟩, ⟨e.resources.memory, config.minMemory⟩,
    ⟨some e.storage.size, config.minStorage⟩]

/-- The minimums are quantities that denote positive numbers. -/
def PolicyConfig.PositiveMinimums (config : PolicyConfig) : Prop :=
  ∀ text ∈ [config.minCpu, config.minMemory, config.minStorage],
    ∃ q, Quantity.parse? text = some q ∧ 0 < q.exact

theorem PolicyConfig.floor_eq_ok {field text : String} {q : Quantity}
    (h : Quantity.parse? text = some q) : floor field text = .ok q.value := by
  unfold floor Quantity.valueOf?
  rw [h]
  rfl

namespace Rules

variable {config : PolicyConfig} {e : EngineSpec} {floors : ResourceFloors}

theorem atLeast_iff_passes {text? : Option String} {minimum : String} {m : Quantity}
    (hm : Quantity.parse? minimum = some m) (hpos : 0 < m.exact) :
    (∃ text, Text.nonblank? text? = some text ∧ AtLeast m.value text) ↔
      Amount.Passes ⟨text?, minimum⟩ := by
  constructor
  · rintro ⟨text, htext, x, hx, hlt⟩
    obtain ⟨q, hq, rfl⟩ := Option.map_eq_some_iff.1 hx
    exact ⟨q, m, ⟨text, htext, hq, hm⟩, (Quantity.not_lt_iff hpos).1 hlt⟩
  · rintro ⟨q, m', ⟨text, htext, hq, hm'⟩, hpasses⟩
    obtain rfl := Option.some.inj (hm.symm.trans hm')
    exact ⟨text, htext, q.value, Option.map_eq_some_iff.2 ⟨q, hq, rfl⟩,
      (Quantity.not_lt_iff hpos).2 hpasses⟩

theorem sized_iff : Sized e floors ↔
    (∃ text, Text.nonblank? e.resources.cpu = some text ∧ AtLeast floors.cpu text) ∧
    (∃ text, Text.nonblank? e.resources.memory = some text ∧ AtLeast floors.memory text) ∧
    ∃ text, Text.nonblank? (some e.storage.size) = some text ∧ AtLeast floors.storage text := by
  have hvolume : (∃ text, Text.nonblank? (some e.storage.size) = some text ∧
      AtLeast floors.storage text) ↔
      Text.trimmed e.storage.size ≠ "" ∧ AtLeast floors.storage (Text.trimmed e.storage.size) := by
    simp [nonblank?_eq_some]
  rw [hvolume]
  exact ⟨fun h => ⟨h.cpu, h.memory, h.volume⟩,
    fun ⟨hcpu, hmemory, hvolume⟩ => ⟨hcpu, hmemory, hvolume⟩⟩

/-- Under settings with positive minimums, an amount that is zero or negative passes if and only if
comparing its value with that of its minimum says nothing. -/
theorem resources_pass_iff (hconfig : config.PositiveMinimums) (e : EngineSpec) :
    ∃ floors, config.floors = .ok floors ∧
      (resources e config floors = .ok () ↔ ∀ a ∈ e.amounts config, a.Passes) := by
  obtain ⟨cpu, hcpu, hcpuPos⟩ := hconfig config.minCpu (by simp)
  obtain ⟨memory, hmemory, hmemoryPos⟩ := hconfig config.minMemory (by simp)
  obtain ⟨storage, hstorage, hstoragePos⟩ := hconfig config.minStorage (by simp)
  refine ⟨⟨cpu.value, memory.value, storage.value⟩, ?_, ?_⟩
  · rw [PolicyConfig.floors, PolicyConfig.floor_eq_ok hcpu, PolicyConfig.floor_eq_ok hmemory,
      PolicyConfig.floor_eq_ok hstorage]
    rfl
  · rw [(resources_decides e config _).ok_iff, sized_iff, atLeast_iff_passes hcpu hcpuPos,
      atLeast_iff_passes hmemory hmemoryPos, atLeast_iff_passes hstorage hstoragePos]
    simp [EngineSpec.amounts]

end Rules

namespace Sample

/-- A cluster that asks for an amount of CPU. -/
def asking (cpu : String) : EngineSpec :=
  { engine := .pxc, replicas := 3, storage := { size := "10G" }
    resources := { cpu := some cpu, memory := some "2G" } }

/-- The floors of the default settings. -/
def floors : ResourceFloors :=
  ⟨.ofDecimal false 6 (-1), .ofInt 512000000, .ofInt 1000000000⟩

theorem floors_eq : PolicyConfig.floors {} = .ok floors := by decide +kernel

theorem positiveMinimums : PolicyConfig.PositiveMinimums {} := by
  intro text htext
  simp only [List.mem_cons, List.not_mem_nil, or_false] at htext
  rcases htext with rfl | rfl | rfl
  · exact ⟨⟨false, 600, 0, .suffix .milli⟩, by decide +kernel,
      Quantity.exact_pos_iff.2 ⟨rfl, by decide⟩⟩
  · exact ⟨⟨false, 512, 0, .suffix .mega⟩, by decide +kernel,
      Quantity.exact_pos_iff.2 ⟨rfl, by decide⟩⟩
  · exact ⟨⟨false, 1, 0, .suffix .giga⟩, by decide +kernel,
      Quantity.exact_pos_iff.2 ⟨rfl, by decide⟩⟩

end Sample

theorem resources_pass_iff_of_sample :
    let config : PolicyConfig := {}
    let e := Sample.asking "1"
    config.PositiveMinimums ∧ Rules.resources e config Sample.floors = .ok () ∧
      ∀ a ∈ e.amounts config, a.Passes := by
  intro config e
  obtain ⟨floors, hfloors, hiff⟩ := Rules.resources_pass_iff Sample.positiveMinimums e
  obtain rfl : Sample.floors = floors := Except.ok.inj (Sample.floors_eq.symm.trans hfloors)
  have hok : Rules.resources e config Sample.floors = .ok () := by decide +kernel
  exact ⟨Sample.positiveMinimums, hok, hiff.1 hok⟩

/-- No CPU at all passes the default settings, if it is written as zero times a power of ten that
overflows: the product is "not a number", which is not below the minimum. -/
theorem zero_cpu_passes :
    let config : PolicyConfig := {}
    let e := Sample.asking "0e999"
    config.PositiveMinimums ∧ config.floors = .ok Sample.floors ∧
      Rules.resources e config Sample.floors = .ok () ∧
      ∃ q, Quantity.parse? "0e999" = some q ∧ q.exact = 0 := by
  intro config e
  refine ⟨Sample.positiveMinimums, Sample.floors_eq, by decide +kernel, ?_⟩
  exact ⟨⟨false, 0, 0, .powerOfTen 999⟩, by decide +kernel, by simp [Quantity.exact]⟩

end ClusterAdmission
