import ClusterAdmission.Proofs.Binary64.Rounding
import ClusterAdmission.Proofs.Rules.Amounts
import ClusterAdmission.Proofs.Text.Blank
import ClusterAdmission.Proofs.Text.Split
import Mathlib.Data.List.TakeWhile

/-!
# Two spellings of the least CPU

An amount of CPU can be written with the suffix for thousandths or as a decimal number of cores. The
first is the product of a count with the binary64 number next to 1/1000, the second a decimal that
is rounded once, so the two may differ in value. The product is never the smaller one: an amount in
thousandths reaches a floor that is the same number of cores. The other way round, an amount in
cores falls short of a floor that is the same number of thousandths exactly if the rounding
separates the two (`Rules.cpu_floor_spellings`), and that happens (`Rules.cpu_at_floor_rejected`).
-/

namespace ClusterAdmission

open Binary64 (Canonical Nearest Separated)

namespace Quantity

/-- The value of the suffix for thousandths: the binary64 number next to 1/1000. -/
def milli : ℚ := 4611686018427388 * 2 ^ (-62 : ℤ)

/-- A text that writes a count of thousandths with the suffix for them. -/
inductive InMillis (n : ℕ) : List Char → Prop
  | mk {ds : List Char} : Text.natural? ds = some n → InMillis n (ds ++ ['m'])

/-- A text that writes a count of thousandths as a plain number of cores, with at most three
decimals. -/
inductive InCores (n : ℕ) : List Char → Prop
  | whole {ds : List Char} {d : ℕ} : Text.natural? ds = some d → n = d * 1000 → InCores n ds
  | decimal {ds fs : List Char} {d : ℕ} : Text.natural? (ds ++ fs) = some d → fs.length ≤ 3 →
    n = d * 10 ^ (3 - fs.length) → InCores n (ds ++ '.' :: fs)

variable {n d : ℕ} {ds fs cs : List Char}

theorem visible_of_chars {c : Char} (h : c.isDigit ∨ c = '.' ∨ c = 'm') :
    Text.isBlank c = false ∧ c ≠ '-' ∧ c ≠ '+' := by
  rcases h with h | rfl | rfl
  · exact ⟨Names.isBlank_of_isLetterOrDigit (by simp [Names.isLetterOrDigit, h]),
      Text.ne_of_kind h rfl, Text.ne_of_kind h rfl⟩
  · decide
  · decide

theorem InMillis.chars (h : InMillis n cs) :
    cs ≠ [] ∧ ∀ c ∈ cs, c.isDigit ∨ c = '.' ∨ c = 'm' := by
  obtain ⟨hds⟩ := h
  obtain ⟨-, hdigits, -⟩ := Text.natural?_eq_some.1 hds
  exact ⟨by simp, List.forall_mem_append.2 ⟨fun c hc => .inl (hdigits c hc), by simp⟩⟩

theorem InCores.chars (h : InCores n cs) :
    cs ≠ [] ∧ ∀ c ∈ cs, c.isDigit ∨ c = '.' ∨ c = 'm' := by
  cases h with
  | whole hds =>
    obtain ⟨hne, hdigits, -⟩ := Text.natural?_eq_some.1 hds
    exact ⟨hne, fun c hc => .inl (hdigits c hc)⟩
  | decimal hds =>
    obtain ⟨-, hdigits, -⟩ := Text.natural?_eq_some.1 hds
    obtain ⟨hds', hfs⟩ := List.forall_mem_append.1 hdigits
    exact ⟨by simp, List.forall_mem_append.2 ⟨fun c hc => .inl (hds' c hc),
      List.forall_mem_cons.2 ⟨.inr (.inl rfl), fun c hc => .inl (hfs c hc)⟩⟩⟩

theorem sign_of_visible (h : ∀ c ∈ cs, c ≠ '-' ∧ c ≠ '+') : sign cs = (false, cs) := by
  unfold sign
  split
  · exact absurd rfl (h _ List.mem_cons_self).1
  · exact absurd rfl (h _ List.mem_cons_self).2
  · rfl

/-- A text without a sign and without blanks is read from its start. -/
theorem parse?_unsigned (hchars : ∀ c ∈ cs, c.isDigit ∨ c = '.' ∨ c = 'm') {places : ℕ}
    {rest : List Char} {scale : QuantityScale} (hread : unsigned? cs = some (d, places, rest))
    (hscale : scale? rest = some scale) :
    parse? (.ofList cs) = some ⟨false, d, places, scale⟩ := by
  rw [parse?, String.toList_ofList,
    Text.trim_eq_self fun c hc => (visible_of_chars (hchars c hc)).1,
    sign_of_visible fun c hc => (visible_of_chars (hchars c hc)).2]
  simp only [hread, hscale, bind, Option.bind_some, pure]

theorem unsigned?_whole (hds : Text.natural? ds = some d) (rest : List Char)
    (hrest : ∀ c ∈ rest.head?, c.isDigit = false ∧ c ≠ '.') :
    unsigned? (ds ++ rest) = some (d, 0, rest) := by
  obtain ⟨-, hdigits, -⟩ := Text.natural?_eq_some.1 hds
  obtain ⟨htake, hdrop⟩ := Text.takeWhile_dropWhile_append hdigits fun c hc => (hrest c hc).1
  unfold unsigned?
  simp only [htake, hdrop]
  split
  · exact absurd rfl (hrest _ rfl).2
  · simp [hds]

theorem unsigned?_decimal (hds : Text.natural? (ds ++ fs) = some d) :
    unsigned? (ds ++ '.' :: fs) = some (d, fs.length, []) := by
  obtain ⟨hne, hdigits, -⟩ := Text.natural?_eq_some.1 hds
  obtain ⟨hds', hfs⟩ := List.forall_mem_append.1 hdigits
  have hpoint : ∀ c ∈ ('.' :: fs).head?, c.isDigit = false := by
    rintro c ⟨⟩
    rfl
  obtain ⟨htake, hdrop⟩ := Text.takeWhile_dropWhile_append hds' hpoint
  have htake' : fs.takeWhile Char.isDigit = fs := List.takeWhile_eq_self_iff.2 hfs
  have hdrop' : fs.dropWhile Char.isDigit = [] := List.dropWhile_eq_nil_iff.2 hfs
  unfold unsigned?
  simp only [htake, hdrop, htake', hdrop']
  have hsome : (ds.isEmpty && fs.isEmpty) = false := by
    rw [← Bool.not_eq_true, Bool.and_eq_true, List.isEmpty_iff, List.isEmpty_iff]
    exact fun ⟨hd, hf⟩ => hne (by rw [hd, hf]; rfl)
  simp [hsome, hds]

theorem InMillis.parse?_eq (h : InMillis n cs) :
    parse? (.ofList cs) = some ⟨false, n, 0, .suffix .milli⟩ := by
  have hchars := h.chars.2
  obtain ⟨hds⟩ := h
  exact parse?_unsigned hchars (unsigned?_whole hds ['m'] (by simp)) (by decide)

theorem InCores.parse?_eq (h : InCores n cs) : ∃ d places,
    parse? (.ofList cs) = some ⟨false, d, places, .plain⟩ ∧ (d : ℚ) / 10 ^ places = n / 1000 := by
  have hchars := h.chars.2
  cases h with
  | @whole _ d hds hn =>
    have hread := unsigned?_whole hds [] (by simp)
    rw [List.append_nil] at hread
    refine ⟨d, 0, parse?_unsigned hchars hread rfl, ?_⟩
    rw [hn]
    push_cast
    ring
  | @decimal ds fs d hds hlength hn =>
    have hpow : (10 : ℚ) ^ fs.length * 10 ^ (3 - fs.length) = 1000 := by
      rw [← pow_add, Nat.add_sub_cancel' hlength]
      norm_num
    refine ⟨d, fs.length, parse?_unsigned hchars (unsigned?_decimal hds) rfl, ?_⟩
    rw [hn, ← hpow]
    push_cast
    field_simp

/-! ## Values -/

theorem lt_milli : 1 / 1000 < milli := by norm_num [milli]

theorem milli_le_one : milli ≤ 1 := by norm_num [milli]

theorem multiplier_milli :
    QuantityScale.multiplier (.suffix .milli) = .finite false 4611686018427388 (-62) := by
  decide +kernel

theorem fits_of_le {x : ℚ} (h : x ≤ 2 ^ 53) : x < 2 ^ 1023 :=
  h.trans_lt (pow_lt_pow_right₀ (by norm_num) (by norm_num))

/-- The value of a count of thousandths is the number nearest to the count times `milli`. -/
theorem value_millis (hpos : 0 < n) (hn : n < 2 ^ 53) :
    ∃ m e, value ⟨false, n, 0, .suffix .milli⟩ = .finite false m e ∧
      Nearest (n * milli) m e := by
  have hpos' : (0 : ℚ) < n := by exact_mod_cast hpos
  have hn' : (n : ℚ) < 2 ^ 53 := by exact_mod_cast hn
  have hratio : (n : ℚ) / (Nat.pow 10 0 : ℕ) = n * 2 ^ (0 : ℤ) := by simp
  have hvalue : (n : ℚ) * 2 ^ (0 : ℤ) = n := by simp
  obtain ⟨m, e, hnumber, hnearest⟩ := Binary64.ofRatio_nearest false hpos
    (by decide : 0 < Nat.pow 10 0) (by rw [hratio, hvalue]; exact fits_of_le hn'.le)
  -- The count itself is not rounded.
  rw [hratio] at hnearest
  have hcount := (hnearest.eq_of_fits hpos hn (by decide)).trans hvalue
  have hproduct : (m : ℚ) * 2 ^ e * ((4611686018427388 : ℕ) * 2 ^ (-62 : ℤ)) = n * milli := by
    rw [hcount, milli]
    norm_num
  have hfits : (n : ℚ) * milli < 2 ^ 1023 :=
    fits_of_le ((mul_le_of_le_one_right hpos'.le milli_le_one).trans hn'.le)
  obtain ⟨k, g, hmul, hnearest'⟩ := Binary64.mul_nearest
    (Binary64.mantissa_pos (hcount ▸ hpos')) (by norm_num) (hproduct ▸ hfits)
  rw [hproduct] at hnearest'
  refine ⟨k, g, ?_, hnearest'⟩
  rw [value, number, hnumber, multiplier_milli]
  exact hmul

/-- The value of a plain number of cores is the number nearest to it. -/
theorem value_plain {places : ℕ} {x : ℚ} (hx : (d : ℚ) / 10 ^ places = x) (hlo : 1 / 1000 ≤ x)
    (hhi : x ≤ 2 ^ 53) :
    ∃ m e, value ⟨false, d, places, .plain⟩ = .finite false m e ∧ Nearest x m e := by
  have hd : 0 < d := by
    refine Nat.pos_of_ne_zero fun h => ?_
    rw [← hx, h] at hlo
    norm_num at hlo
  have hratio : (d : ℚ) / (10 ^ places : ℕ) = x := by
    rw [← hx]
    push_cast
    rfl
  obtain ⟨m, e, hnumber, hnearest⟩ := Binary64.ofRatio_nearest false hd
    (Nat.pow_pos (by decide) : 0 < 10 ^ places) (hratio ▸ fits_of_le hhi)
  rw [hratio] at hnearest
  have htiny : (2 : ℚ) ^ Binary64.minExponent ≤ x := by
    have hpow : (2 : ℚ) ^ Binary64.minExponent ≤ 2 ^ (-10 : ℤ) :=
      zpow_le_zpow_right₀ (by norm_num) (by decide)
    norm_num at hpow
    linarith
  have hlimit : Canonical (2 ^ 52) 1 := ⟨by decide, by norm_num, .inr le_rfl⟩
  have hle : (m : ℚ) * 2 ^ e ≤ 2 ^ 53 := by
    have hmono := hnearest.mono hlimit.nearest (by norm_num; linarith)
    norm_num at hmono ⊢
    exact hmono
  obtain ⟨k, g, hmul, hnearest'⟩ := hnearest.mul_one (hnearest.pos htiny) (fits_of_le hle)
  exact ⟨k, g, (congrArg (Binary64.mul · Binary64.one) hnumber).trans hmul, hnearest'⟩

/-! ## The two spellings -/

/-- An amount in thousandths is never below the same number of cores, and the number of cores is
below it exactly if a middle separates them. -/
theorem lt_spellings {millis cores : List Char} (hmillis : InMillis n millis)
    (hcores : InCores n cores) (hpos : 0 < n) (hn : n < 2 ^ 53) :
    ∃ a b, valueOf? (.ofList millis) = some a ∧ valueOf? (.ofList cores) = some b ∧
      a.lt b = false ∧ (b.lt a = true ↔ Separated (n / 1000) (n * milli)) := by
  have hpos' : (1 : ℚ) ≤ n := by exact_mod_cast hpos
  have hn' : (n : ℚ) < 2 ^ 53 := by exact_mod_cast hn
  obtain ⟨d, places, hparse, hx⟩ := hcores.parse?_eq
  obtain ⟨m, e, hm, hnearest⟩ := value_millis hpos hn
  obtain ⟨k, g, hk, hnearest'⟩ := value_plain hx (by linarith) (by linarith)
  have hle : (n : ℚ) / 1000 ≤ n * milli := by
    have hscaled := mul_le_mul_of_nonneg_left lt_milli.le (zero_le_one.trans hpos')
    linarith
  refine ⟨_, _, congrArg (Option.map value) hmillis.parse?_eq,
    congrArg (Option.map value) hparse, ?_, ?_⟩
  · rw [hm, hk, ← Bool.not_eq_true, Binary64.lt_finite_iff, not_lt]
    exact hnearest'.mono hnearest hle
  · rw [hm, hk, Binary64.lt_finite_iff, hnearest'.lt_iff hnearest]

end Quantity

namespace Rules

variable {e : EngineSpec} {config : PolicyConfig} {floors : ResourceFloors}

theorem bind_eq_error {v : Verdict} {k : Unit → Verdict} {w : Violation} :
    (v >>= k) = .error w ↔ v = .error w ∨ v = .ok () ∧ k () = .error w := by
  cases v with
  | ok => exact ⟨fun h => .inr ⟨rfl, h⟩, fun h => (h.resolve_left nofun).2⟩
  | error w' => exact ⟨.inl, fun h => h.resolve_right fun ⟨hok, _⟩ => nomatch hok⟩

theorem atLeastFloor_eq_error {text : String} {floor : Binary64} {v w : Violation}
    (h : w ≠ .invalidQuantity text) :
    atLeastFloor text floor v = .error w ↔
      w = v ∧ ∃ x, Quantity.valueOf? text = some x ∧ x.lt floor = true := by
  unfold atLeastFloor quantity
  cases Quantity.valueOf? text with
  | none =>
    constructor
    · intro herror
      exact absurd (Except.error.inj herror).symm h
    · rintro ⟨-, _, ⟨⟩, -⟩
  | some x =>
    change require (!x.lt floor) v = .error w ↔ _
    rw [require_eq_error, Bool.not_eq_false', and_comm, eq_comm]
    simp

/-- An amount of CPU is too small if CPU and memory are given, and its value is below the floor. -/
theorem resources_cpuBelow_iff {w : String} :
    resources e config floors = .error (.cpuBelowMinimum w) ↔
      w = config.minCpu ∧ (Text.nonblank? e.resources.memory).isSome ∧
        ∃ cpu, Text.nonblank? e.resources.cpu = some cpu ∧
          ∃ x, Quantity.valueOf? cpu = some x ∧ x.lt floors.cpu = true := by
  unfold resources
  cases hgiven : computeGiven e.resources with
  | error w' =>
    have hmissing : ¬ ∃ given, computeGiven e.resources = .ok given := by
      rintro ⟨given, h⟩
      rw [hgiven] at h
      cases h
    constructor
    · intro h
      obtain rfl := Except.error.inj h
      rcases computeGiven_eq_error hgiven with h | h | h <;> cases h
    · rintro ⟨-, hmemory, cpu, hcpu, -⟩
      obtain ⟨memory, hmemory⟩ := Option.isSome_iff_exists.1 hmemory
      exact absurd ⟨(cpu, memory), computeGiven_eq_ok.2 ⟨hcpu, hmemory⟩⟩ hmissing
  | ok given =>
    obtain ⟨cpu, memory⟩ := given
    obtain ⟨hcpu, hmemory⟩ := computeGiven_eq_ok.1 hgiven
    have hfloor (text : String) (floor : Binary64) (v : Violation) :
        atLeastFloor text floor v = .error (.cpuBelowMinimum w) ↔
          .cpuBelowMinimum w = v ∧ ∃ x, Quantity.valueOf? text = some x ∧ x.lt floor = true :=
      atLeastFloor_eq_error nofun
    change (atLeastFloor cpu floors.cpu (.cpuBelowMinimum config.minCpu) >>= _) = _ ↔ _
    -- What comes after the CPU names other violations.
    simp only [bind_eq_error, hfloor, require_eq_error, reduceCtorEq, false_and, and_false,
      or_false, Violation.cpuBelowMinimum.injEq, hcpu, hmemory, Option.isSome_some, true_and,
      Option.some.injEq, exists_eq_left']

/-- The floor of the CPU is the value of the minimum. -/
theorem cpu_of_floors (h : config.floors = .ok floors) :
    Quantity.valueOf? config.minCpu = some floors.cpu := by
  unfold PolicyConfig.floors PolicyConfig.floor at h
  cases hcpu : Quantity.valueOf? config.minCpu with
  | none =>
    rw [hcpu] at h
    cases h
  | some cpu =>
    rw [hcpu] at h
    cases hmemory : Quantity.valueOf? config.minMemory with
    | none =>
      rw [hmemory] at h
      cases h
    | some memory =>
      cases hstorage : Quantity.valueOf? config.minStorage with
      | none =>
        rw [hmemory, hstorage] at h
        cases h
      | some storage =>
        rw [hmemory, hstorage] at h
        cases h
        rfl

theorem nonblank?_ofList {cs : List Char} (hne : cs ≠ [])
    (hblank : ∀ c ∈ cs, Text.isBlank c = false) :
    Text.nonblank? (some (.ofList cs)) = some (.ofList cs) := by
  refine nonblank?_eq_some.2 ⟨_, rfl, ?_, by simpa using hne⟩
  rw [Text.trimmed, String.toList_ofList, Text.trim_eq_self hblank]

/-- For every positive count of thousandths below `2^53`: an amount of CPU that is written with the
suffix for thousandths is not below the floor if the minimum is the same number of cores. The other
way round, the number of cores is found too small exactly if the rounding separates it from the
product of the count with `Quantity.milli` (and the memory is given, which is asked first). -/
theorem cpu_floor_spellings {n : ℕ} (hpos : 0 < n) (hn : n < 2 ^ 53) {millis cores : List Char}
    (hmillis : Quantity.InMillis n millis) (hcores : Quantity.InCores n cores)
    (hfloors : config.floors = .ok floors) :
    (config.minCpu = .ofList cores → e.resources.cpu = some (.ofList millis) →
      ∀ w, resources e config floors ≠ .error (.cpuBelowMinimum w)) ∧
    (config.minCpu = .ofList millis → e.resources.cpu = some (.ofList cores) →
      (resources e config floors = .error (.cpuBelowMinimum config.minCpu) ↔
        (Text.nonblank? e.resources.memory).isSome ∧ Separated (n / 1000) (n * Quantity.milli))) := by
  obtain ⟨a, b, ha, hb, hnot, hiff⟩ := Quantity.lt_spellings hmillis hcores hpos hn
  have hfloor := cpu_of_floors hfloors
  constructor
  · intro hmin hcpu w herror
    have hgiven := nonblank?_ofList hmillis.chars.1 fun c hc =>
      (Quantity.visible_of_chars (hmillis.chars.2 c hc)).1
    obtain ⟨-, -, cpu, hread, x, hx, hlt⟩ := resources_cpuBelow_iff.1 herror
    rw [hmin, hb] at hfloor
    rw [hcpu, hgiven] at hread
    obtain rfl := Option.some.inj hread
    obtain rfl := Option.some.inj (ha.symm.trans hx)
    rw [← Option.some.inj hfloor, hnot] at hlt
    cases hlt
  · intro hmin hcpu
    have hgiven := nonblank?_ofList hcores.chars.1 fun c hc =>
      (Quantity.visible_of_chars (hcores.chars.2 c hc)).1
    rw [hmin, ha] at hfloor
    rw [resources_cpuBelow_iff, hcpu, hgiven, ← Option.some.inj hfloor, ← hiff]
    simp [hb]

end Rules

namespace Sample

/-- The floors of the default settings but for the CPU. -/
def floorsWithCpu (cpu : Binary64) : ResourceFloors := { floors with cpu }

theorem inMillis_nine : Quantity.InMillis 9 ['9', 'm'] :=
  .mk (by decide : Text.natural? ['9'] = some 9)

theorem inCores_nine : Quantity.InCores 9 ['0', '.', '0', '0', '9'] :=
  .decimal (by decide : Text.natural? (['0'] ++ ['0', '0', '9']) = some 9) (by decide) rfl

end Sample

/-- Nine thousandths reach a floor of 0.009 cores, and 0.009 cores are separated from them. -/
theorem Rules.cpu_floor_spellings_of_sample :
    (∀ w, Rules.resources (Sample.asking "9m") { minCpu := "0.009" }
      (Sample.floorsWithCpu (.finite false 5188146770730811 (-59))) ≠
        .error (.cpuBelowMinimum w)) ∧
    Separated (9 / 1000) (9 * Quantity.milli) := by
  have hcores : PolicyConfig.floors { minCpu := "0.009" } =
      .ok (Sample.floorsWithCpu (.finite false 5188146770730811 (-59))) := by
    decide +kernel
  have hmillis : PolicyConfig.floors { minCpu := "9m" } =
      .ok (Sample.floorsWithCpu (.finite false 5188146770730812 (-59))) := by
    decide +kernel
  have hbelow : Rules.resources (Sample.asking "0.009") { minCpu := "9m" }
      (Sample.floorsWithCpu (.finite false 5188146770730812 (-59))) =
        .error (.cpuBelowMinimum "9m") := by
    decide +kernel
  obtain ⟨-, hseparated⟩ := (Rules.cpu_floor_spellings (by decide) (by decide)
    Sample.inMillis_nine Sample.inCores_nine hmillis).2 rfl rfl |>.1 hbelow
  exact ⟨(Rules.cpu_floor_spellings (by decide) (by decide) Sample.inMillis_nine
    Sample.inCores_nine hcores).1 rfl rfl, by exact_mod_cast hseparated⟩

/-- A cluster that asks for 0.009 cores is rejected where the least CPU is `9m`. -/
theorem Rules.cpu_at_floor_rejected :
    let config : PolicyConfig := { minCpu := "9m" }
    let floors := Sample.floorsWithCpu (.finite false 5188146770730812 (-59))
    Quantity.InMillis 9 ['9', 'm'] ∧ Quantity.InCores 9 ['0', '.', '0', '0', '9'] ∧
      config.floors = .ok floors ∧
      Rules.resources (Sample.asking "0.009") config floors = .error (.cpuBelowMinimum "9m") :=
  ⟨Sample.inMillis_nine, Sample.inCores_nine, by decide +kernel, by decide +kernel⟩

end ClusterAdmission
