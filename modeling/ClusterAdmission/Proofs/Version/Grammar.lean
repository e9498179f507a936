import ClusterAdmission.Proofs.Names
import ClusterAdmission.Proofs.Rules.Upgrade
import ClusterAdmission.Proofs.Text.Blank
import ClusterAdmission.Proofs.Text.Split

/-!
# The grammar of versions

A version is read from exactly the texts that are written as one (`Version.parse?_eq_some`): blanks
around it, one `v` in front or none, one to three numbers, and a suffix as in SemVer 2.0.0. The
zeros that a short core lacks are added in front of the suffix, so nothing in the suffix is taken
for a part of the core (`Version.completed_eq_text`).
-/

namespace ClusterAdmission

open Text (digits isBlank joinWith splitOn)

/-! ## Identifiers -/

/-- An identifier: letters, digits and hyphens, at least one of them. -/
def IsIdentifier (cs : List Char) : Prop := cs ≠ [] ∧ ∀ c ∈ cs, isIdentifierChar c

theorem isIdentifier_iff {cs : List Char} :
    IsIdentifier cs ↔ (cs.isEmpty || !cs.all isIdentifierChar) = false := by
  simp [IsIdentifier]

theorem isBlank_of_isIdentifierChar {c : Char} (h : isIdentifierChar c) : isBlank c = false := by
  rcases Bool.or_eq_true_iff.1 h with hc | hc
  · exact Names.isBlank_of_isLetterOrDigit hc
  · rw [beq_iff_eq.1 hc]
    decide

theorem isIdentifier_digits (n : Nat) : IsIdentifier (digits n) :=
  ⟨Text.digits_ne_nil n, fun c hc => by simp [isIdentifierChar, Text.isDigit_of_mem_digits hc]⟩

namespace PreIdentifier

variable {i : PreIdentifier}

/-- Each number is an identifier, written without superfluous zeros; a word has a character that is
no digit. -/
def WellFormed : PreIdentifier → Prop
  | number _ => True
  | word cs => IsIdentifier cs ∧ ∃ c ∈ cs, ¬ c.isDigit

theorem WellFormed.isIdentifier (h : i.WellFormed) : IsIdentifier i.text := by
  cases i with
  | number n => exact isIdentifier_digits n
  | word cs => exact h.1

theorem ofText?_eq_some {cs : List Char} : ofText? cs = some i ↔ i.WellFormed ∧ cs = i.text := by
  constructor
  · intro h
    unfold ofText? at h
    split at h
    · cases h
    · next hid =>
      split at h
      · split at h
        · cases h
        · next hzero =>
          obtain ⟨n, hn, rfl⟩ := Option.map_eq_some_iff.1 h
          exact ⟨trivial, Text.eq_digits_iff.2 ⟨hn, by simpa using hzero⟩⟩
      · next hdigits =>
        cases h
        exact ⟨⟨isIdentifier_iff.2 (Bool.eq_false_iff.2 hid), by simpa using hdigits⟩, rfl⟩
  · rintro ⟨hi, rfl⟩
    rw [ofText?, isIdentifier_iff.1 hi.isIdentifier, if_neg Bool.false_ne_true]
    cases i with
    | number n =>
      obtain ⟨hn, hzero⟩ := Text.eq_digits_iff.1 (rfl : digits n = digits n)
      rw [text, Text.all_isDigit_digits, if_pos rfl, if_neg (by simpa using hzero), hn]
      rfl
    | word cs => exact if_neg (by simpa [text] using hi.2)

end PreIdentifier

namespace Version

variable {v : Version} {cs : List Char}

/-! ## The core -/

theorem coreNumber?_eq_some {n : UInt64} : coreNumber? cs = some n ↔ cs = digits n.toNat := by
  unfold coreNumber?
  rw [Text.eq_digits_iff]
  constructor
  · intro h
    split at h
    · cases h
    · next hzero =>
      obtain ⟨m, hm, rfl⟩ := Option.map_eq_some_iff.1 h
      obtain ⟨hm, hlt⟩ := Option.filter_eq_some_iff.1 hm
      rw [UInt64.toNat_ofNat_of_lt' (of_decide_eq_true hlt)]
      exact ⟨hm, by simpa using hzero⟩
  · rintro ⟨hn, hzero⟩
    have hfits : (some n.toNat).filter (· < UInt64.size) = some n.toNat :=
      Option.filter_some_pos (decide_eq_true n.toNat_lt)
    rw [if_neg (by simpa using hzero), hn, hfits, Option.map_some, UInt64.ofNat_toNat]

theorem splitOn_coreText {numbers : List UInt64} (hne : numbers ≠ []) :
    splitOn '.' (coreText numbers) = numbers.map fun n => digits n.toNat := by
  refine Text.splitOn_joinWith (fun h => hne (List.map_eq_nil_iff.1 h)) fun p hp => ?_
  obtain ⟨n, -, rfl⟩ := List.mem_map.1 hp
  exact Text.not_mem_digits rfl

theorem core?_eq_some {a b c : UInt64} : core? cs = some (a, b, c) ↔ cs = coreText [a, b, c] := by
  have hparts (numbers : List UInt64) : (splitOn '.' cs).mapM coreNumber? = some numbers ↔
      numbers ≠ [] ∧ cs = coreText numbers := by
    have hread (ds : List Char) (n : UInt64) :
        coreNumber? ds = some n ↔ True ∧ ds = digits n.toNat := by
      rw [coreNumber?_eq_some, true_and]
    rw [Text.mapM_splitOn_eq_some hread fun _ _ => Text.not_mem_digits rfl]
    simp [coreText]
  unfold core?
  constructor
  · intro h
    obtain ⟨numbers, hnumbers, h⟩ := Option.bind_eq_some_iff.1 h
    split at h
    · cases h
      exact ((hparts _).1 hnumbers).2
    · cases h
  · intro h
    rw [(hparts [a, b, c]).2 ⟨List.cons_ne_nil _ _, h⟩]
    rfl

theorem startsSuffix_of_isDigit {c : Char} (h : c.isDigit) : startsSuffix c = false := by
  have hminus : c ≠ '-' := Text.ne_of_kind h rfl
  have hplus : c ≠ '+' := Text.ne_of_kind h rfl
  simp [startsSuffix, hminus, hplus]

theorem startsSuffix_of_mem_coreText {numbers : List UInt64} {c : Char}
    (h : c ∈ coreText numbers) : startsSuffix c = false := by
  rcases Text.mem_joinWith h with rfl | ⟨p, hp, hc⟩
  · rfl
  · obtain ⟨n, -, rfl⟩ := List.mem_map.1 hp
    exact startsSuffix_of_isDigit (Text.isDigit_of_mem_digits hc)

/-! ## The suffix -/

theorem identifiers?_eq_some {α : Type} {start : Char} {read : List Char → Option α}
    {valid : α → Prop} {text : α → List Char}
    (hread : ∀ ds a, read ds = some a ↔ valid a ∧ ds = text a)
    (htext : ∀ a, valid a → IsIdentifier (text a)) {as : List α} :
    identifiers? start read cs = some as ↔
      (∀ a ∈ as, valid a) ∧ cs = partText start (as.map text) := by
  have hpoint (a : α) (ha : valid a) : '.' ∉ text a := fun h =>
    Text.ne_of_kind ((htext a ha).2 '.' h) rfl rfl
  cases as with
  | nil =>
    cases cs with
    | nil => simp [identifiers?, partText]
    | cons c cs =>
      have hne : (splitOn '.' cs).mapM read ≠ some [] := fun h =>
        ((Text.mapM_splitOn_eq_some hread hpoint).1 h).2.1 rfl
      simp [identifiers?, partText, hne]
  | cons a as =>
    have htext : partText start ((a :: as).map text) = start :: joinWith '.' ((a :: as).map text) :=
      rfl
    rw [htext]
    cases cs with
    | nil => simp [identifiers?]
    | cons c cs =>
      rw [identifiers?]
      by_cases hstart : c = start
      · rw [if_pos hstart, Text.mapM_splitOn_eq_some hread hpoint]
        simp [hstart]
      · rw [if_neg hstart]
        simp [hstart]

theorem buildIdentifier?_eq_some {ds : List Char} :
    buildIdentifier? cs = some ds ↔ IsIdentifier ds ∧ cs = ds := by
  unfold buildIdentifier?
  constructor
  · intro h
    split at h
    · cases h
    · next hid =>
      cases h
      exact ⟨isIdentifier_iff.2 (Bool.eq_false_iff.2 hid), rfl⟩
  · rintro ⟨hid, rfl⟩
    rw [isIdentifier_iff.1 hid, if_neg Bool.false_ne_true]

/-- The suffix of a version has identifiers only. -/
structure SuffixWellFormed (pre : List PreIdentifier) (build : List (List Char)) : Prop where
  pre : ∀ i ∈ pre, i.WellFormed
  build : ∀ ds ∈ build, IsIdentifier ds

theorem mem_partText {start c : Char} {identifiers : List (List Char)}
    (h : c ∈ partText start identifiers) :
    c = start ∨ c = '.' ∨ ∃ ds ∈ identifiers, c ∈ ds := by
  unfold partText at h
  split at h
  · cases h
  · exact (List.mem_cons.1 h).imp_right Text.mem_joinWith

theorem head?_partText {start c : Char} {identifiers : List (List Char)}
    (h : c ∈ (partText start identifiers).head?) : c = start := by
  unfold partText at h
  split at h
  · cases h
  · exact (Option.some.inj h).symm

theorem suffix?_eq_some {pre : List PreIdentifier} {build : List (List Char)} :
    suffix? cs = some (pre, build) ↔ SuffixWellFormed pre build ∧ cs = suffixText pre build := by
  have hpre {ds : List Char} : identifiers? '-' PreIdentifier.ofText? ds = some pre ↔
      (∀ i ∈ pre, i.WellFormed) ∧ ds = partText '-' (pre.map PreIdentifier.text) :=
    identifiers?_eq_some (fun _ _ => PreIdentifier.ofText?_eq_some) fun _ h => h.isIdentifier
  have hbuild {ds : List Char} : identifiers? '+' buildIdentifier? ds = some build ↔
      (∀ ds ∈ build, IsIdentifier ds) ∧ ds = partText '+' build := by
    rw [identifiers?_eq_some (fun _ _ => buildIdentifier?_eq_some) fun _ h => h, List.map_id']
  simp only [suffix?, bind, pure, Option.bind_eq_some_iff, Option.some.injEq, Prod.mk.injEq]
  constructor
  · rintro ⟨_, hreadPre, _, hreadBuild, rfl, rfl⟩
    obtain ⟨hwfPre, hfront⟩ := hpre.1 hreadPre
    obtain ⟨hwfBuild, hback⟩ := hbuild.1 hreadBuild
    refine ⟨⟨hwfPre, hwfBuild⟩, ?_⟩
    rw [suffixText, ← hfront, ← hback, List.takeWhile_append_dropWhile]
  · rintro ⟨⟨hwfPre, hwfBuild⟩, rfl⟩
    -- No character of the pre-release is the plus with which the build starts.
    have hfront : ∀ c ∈ partText '-' (pre.map PreIdentifier.text), c != '+' := by
      intro c hc
      rcases mem_partText hc with rfl | rfl | ⟨ds, hds, hc⟩
      · rfl
      · rfl
      · obtain ⟨i, hi, rfl⟩ := List.mem_map.1 hds
        exact bne_iff_ne.2 (Text.ne_of_kind ((hwfPre i hi).isIdentifier.2 c hc) rfl)
    have hback : ∀ c ∈ (partText '+' build).head?, (c != '+') = false := by
      intro c hc
      rw [head?_partText hc]
      rfl
    obtain ⟨htake, hdrop⟩ := Text.takeWhile_dropWhile_append hfront hback
    exact ⟨pre, hpre.2 ⟨hwfPre, htake⟩, build, hbuild.2 ⟨hwfBuild, hdrop⟩, rfl, rfl⟩

theorem head?_suffixText {pre : List PreIdentifier} {build : List (List Char)} {c : Char}
    (h : c ∈ (suffixText pre build).head?) : startsSuffix c := by
  unfold suffixText at h
  rw [List.head?_append, Option.mem_def, Option.or_eq_some_iff] at h
  rcases h with h | ⟨-, h⟩
  · rw [head?_partText h]
    rfl
  · rw [head?_partText h]
    rfl

/-! ## Versions in full -/

theorem coreOf_append {core suffix : List Char} (hcore : ∀ c ∈ core, startsSuffix c = false)
    (hsuffix : ∀ c ∈ suffix.head?, startsSuffix c) :
    coreOf (core ++ suffix) = core ∧ suffixOf (core ++ suffix) = suffix :=
  Text.takeWhile_dropWhile_append (fun c hc => by simp [hcore c hc])
    fun c hc => by simp [hsuffix c hc]

theorem coreOf_append_suffixOf (cs : List Char) : coreOf cs ++ suffixOf cs = cs :=
  List.takeWhile_append_dropWhile

theorem coreOf_coreText_append (numbers : List UInt64) (pre : List PreIdentifier)
    (build : List (List Char)) :
    coreOf (coreText numbers ++ suffixText pre build) = coreText numbers ∧
      suffixOf (coreText numbers ++ suffixText pre build) = suffixText pre build :=
  coreOf_append (fun _ => startsSuffix_of_mem_coreText) fun _ => head?_suffixText

/-- All identifiers of a version are well-formed. -/
def WellFormed (v : Version) : Prop := SuffixWellFormed v.pre v.build

theorem semantic?_eq_some : semantic? cs = some v ↔ v.WellFormed ∧ cs = v.text := by
  obtain ⟨major, minor, patch, pre, build⟩ := v
  simp only [semantic?, bind, pure, Option.bind_eq_some_iff, Prod.exists, core?_eq_some,
    suffix?_eq_some, Option.some.injEq, Version.mk.injEq]
  constructor
  · rintro ⟨_, _, _, hcore, _, _, ⟨hwf, hsuffix⟩, rfl, rfl, rfl, rfl, rfl⟩
    refine ⟨hwf, ?_⟩
    rw [text, ← hcore, ← hsuffix, coreOf_append_suffixOf]
  · rintro ⟨hwf, rfl⟩
    obtain ⟨hcore, hsuffix⟩ := coreOf_coreText_append [major, minor, patch] pre build
    exact ⟨major, minor, patch, hcore, pre, build, ⟨hwf, hsuffix⟩, rfl, rfl, rfl, rfl, rfl⟩

/-! ## Short cores -/

theorem mem_completedCore {core : List Char} {c : Char} (h : c ∈ completedCore core) :
    c ∈ core ∨ c = '.' ∨ c = '0' := by
  unfold completedCore at h
  split at h
  · simp only [List.mem_append, List.mem_cons, List.not_mem_nil, or_false] at h
    grind
  · simpa using h
  · exact .inl h

/-- The numbers of a completed core are those of the core, and zeros up to three. -/
theorem splitOn_completedCore (core : List Char) :
    splitOn '.' (completedCore core) =
      splitOn '.' core ++ List.replicate (3 - (splitOn '.' core).length) ['0'] := by
  have hlength := Text.length_splitOn '.' core
  unfold completedCore
  split
  · next hcount =>
    rw [Text.splitOn_append, hlength, hcount]
    rfl
  · next hcount =>
    rw [Text.splitOn_append, hlength, hcount]
    rfl
  · next h0 h1 =>
    have hnone : 3 - (core.count '.' + 1) = 0 := by
      have hne0 : core.count '.' ≠ 0 := h0
      have hne1 : core.count '.' ≠ 1 := h1
      omega
    rw [hlength, hnone, List.replicate_zero, List.append_nil]

/-- A text is written as a version: one to three numbers of its core, where those left out are zero,
and its suffix. -/
def Spelled (cs : List Char) (v : Version) : Prop :=
  ∃ numbers k, numbers ≠ [] ∧ numbers ++ List.replicate k 0 = [v.major, v.minor, v.patch] ∧
    cs = coreText numbers ++ suffixText v.pre v.build

/-- A core is completed to the numbers of a version exactly if it has the first ones of them and the
others are zero. -/
theorem completedCore_eq_coreText {core : List Char} {a b c : UInt64} :
    completedCore core = coreText [a, b, c] ↔
      ∃ numbers k, numbers ≠ [] ∧ numbers ++ List.replicate k 0 = [a, b, c] ∧
        core = coreText numbers := by
  have hzero : digits (0 : UInt64).toNat = ['0'] := rfl
  rw [← Text.splitOn_inj '.', splitOn_completedCore, splitOn_coreText (List.cons_ne_nil _ _)]
  constructor
  · intro h
    obtain ⟨numbers, zeros, hsplit, hnumbers, hzeros⟩ := List.append_eq_map_iff.1 h
    have hne : numbers ≠ [] := by
      rintro rfl
      exact Text.splitBy_ne_nil _ core hnumbers.symm
    refine ⟨numbers, zeros.length, hne, ?_, ?_⟩
    · rw [hsplit]
      congr 1
      refine (List.eq_replicate_of_mem fun n hn => ?_).symm
      have hdigits : digits n.toNat = ['0'] :=
        List.eq_of_mem_replicate (hzeros ▸ List.mem_map_of_mem hn)
      exact UInt64.toNat_inj.1 (Text.digits_inj (hdigits.trans hzero.symm))
    · exact (Text.splitOn_inj '.').1 (hnumbers.symm.trans (splitOn_coreText hne).symm)
  · rintro ⟨numbers, k, hne, hnumbers, rfl⟩
    have hlength : 3 - numbers.length = k := by
      have h := congrArg List.length hnumbers
      simp only [List.length_append, List.length_replicate, List.length_cons, List.length_nil] at h
      omega
    rw [splitOn_coreText hne, List.length_map, hlength, ← hnumbers, List.map_append,
      List.map_replicate, hzero]

/-- Zeros are added in front of the suffix, so that of a text with a short core the version is
made that has this core and this suffix. -/
theorem completed_eq_text : completed cs = v.text ↔ Spelled cs v := by
  constructor
  · intro h
    have hcompleted : ∀ c ∈ completedCore (coreOf cs), startsSuffix c = false := by
      intro c hc
      rcases mem_completedCore hc with hc | rfl | rfl
      · simpa using List.all_eq_true.1 List.all_takeWhile c hc
      · rfl
      · rfl
    have hhead : ∀ c ∈ (suffixOf cs).head?, startsSuffix c := by
      intro c hc
      have hdrop := List.head?_dropWhile_not (fun c => !startsSuffix c) cs
      rw [show (cs.dropWhile fun c => !startsSuffix c).head? = some c from hc] at hdrop
      simpa using hdrop
    obtain ⟨hcore, hsuffix⟩ := coreOf_append hcompleted hhead
    obtain ⟨hcore', hsuffix'⟩ :=
      coreOf_coreText_append [v.major, v.minor, v.patch] v.pre v.build
    rw [completed] at h
    rw [h] at hcore hsuffix
    obtain ⟨numbers, k, hne, hnumbers, heq⟩ :=
      completedCore_eq_coreText.1 (hcore.symm.trans hcore')
    have hsame : suffixOf cs = suffixText v.pre v.build := hsuffix.symm.trans hsuffix'
    exact ⟨numbers, k, hne, hnumbers, by rw [← heq, ← hsame, coreOf_append_suffixOf]⟩
  · rintro ⟨numbers, k, hne, hnumbers, rfl⟩
    obtain ⟨hcore, hsuffix⟩ := coreOf_coreText_append numbers v.pre v.build
    rw [completed, hcore, hsuffix, completedCore_eq_coreText.2 ⟨numbers, k, hne, hnumbers, rfl⟩]
    rfl

/-! ## What stands around a version -/

/-- A text is made of another one by blanks around it, and one `v` in front of it or none. -/
def Wrapped (cs : List Char) (text : String) : Prop :=
  ∃ front lead back, (∀ c ∈ front, isBlank c) ∧ (lead = [] ∨ lead = ['v']) ∧
    (∀ c ∈ back, isBlank c) ∧ text.toList = front ++ (lead ++ cs) ++ back

theorem wrapped_bare (text : String) : Wrapped (bare text) text := by
  obtain ⟨front, back, hfront, hback, htext⟩ := Text.exists_blanks text.toList
  unfold bare
  split
  · next cs htrim =>
    rw [htrim] at htext
    exact ⟨front, ['v'], back, hfront, .inr rfl, hback, htext⟩
  · exact ⟨front, [], back, hfront, .inl rfl, hback, htext⟩

theorem Wrapped.bare_eq {text : String} {d : Char} (h : Wrapped (d :: cs) text)
    (hvisible : ∀ c ∈ d :: cs, isBlank c = false) (hd : d ≠ 'v') : bare text = d :: cs := by
  obtain ⟨front, lead, back, hfront, hlead, hback, htext⟩ := h
  rcases hlead with rfl | rfl
  · have htrim : Text.trim text.toList = d :: cs := by
      rw [htext, List.nil_append]
      exact Text.trim_append hfront hvisible (List.cons_ne_nil d cs) hback
    unfold bare
    rw [htrim]
    split
    · next heq => exact absurd (List.cons.inj heq).1 hd
    · rfl
  · have hvisible' : ∀ c ∈ 'v' :: d :: cs, isBlank c = false :=
      List.forall_mem_cons.2 ⟨by decide, hvisible⟩
    have htrim : Text.trim text.toList = 'v' :: d :: cs := by
      rw [htext]
      exact Text.trim_append hfront hvisible' (List.cons_ne_nil _ _) hback
    rw [bare, htrim]
    rfl

/-- A core starts with a digit. -/
theorem coreText_eq_cons {numbers : List UInt64} (hne : numbers ≠ []) :
    ∃ d ds, coreText numbers = d :: ds ∧ d.isDigit := by
  obtain ⟨n, rest, rfl⟩ := List.exists_cons_of_ne_nil hne
  obtain ⟨d, ds, hdigits⟩ := List.exists_cons_of_ne_nil (Text.digits_ne_nil n.toNat)
  have hd : d.isDigit := Text.isDigit_of_mem_digits (n := n.toNat) (hdigits ▸ List.mem_cons_self)
  cases rest with
  | nil => exact ⟨d, ds, hdigits, hd⟩
  | cons m rest =>
    refine ⟨d, ds ++ '.' :: coreText (m :: rest), ?_, hd⟩
    change digits n.toNat ++ '.' :: coreText (m :: rest) = _
    rw [hdigits, List.cons_append]

/-- No character of a version is blank. -/
theorem Spelled.isBlank_eq_false (h : Spelled cs v) (hv : v.WellFormed) :
    ∀ c ∈ cs, isBlank c = false := by
  have hdigit {n : Nat} {c : Char} (hc : c ∈ digits n) : isBlank c = false :=
    isBlank_of_isIdentifierChar ((isIdentifier_digits n).2 c hc)
  obtain ⟨numbers, k, -, -, rfl⟩ := h
  intro c hc
  rcases List.mem_append.1 hc with hc | hc
  · rcases Text.mem_joinWith hc with rfl | ⟨p, hp, hc⟩
    · decide
    · obtain ⟨n, -, rfl⟩ := List.mem_map.1 hp
      exact hdigit hc
  rcases List.mem_append.1 hc with hc | hc
  · rcases mem_partText hc with rfl | rfl | ⟨p, hp, hc⟩
    · decide
    · decide
    · obtain ⟨i, hi, rfl⟩ := List.mem_map.1 hp
      exact isBlank_of_isIdentifierChar ((hv.pre i hi).isIdentifier.2 c hc)
  · rcases mem_partText hc with rfl | rfl | ⟨p, hp, hc⟩
    · decide
    · decide
    · exact isBlank_of_isIdentifierChar ((hv.build p hp).2 c hc)

/-- A text is written as a version. -/
def Written (text : String) (v : Version) : Prop :=
  v.WellFormed ∧ ∃ cs, Spelled cs v ∧ Wrapped cs text

/-- A version is read from exactly the texts that are written as it. -/
theorem parse?_eq_some {text : String} : parse? text = some v ↔ Written text v := by
  rw [parse?, semantic?_eq_some, completed_eq_text]
  constructor
  · rintro ⟨hv, hspelled⟩
    exact ⟨hv, bare text, hspelled, wrapped_bare text⟩
  · rintro ⟨hv, cs, hspelled, hwrapped⟩
    have hvisible := hspelled.isBlank_eq_false hv
    obtain ⟨numbers, k, hne, hnumbers, rfl⟩ := id hspelled
    obtain ⟨d, ds, hcore, hd⟩ := coreText_eq_cons hne
    rw [hcore, List.cons_append] at hwrapped hvisible hspelled
    rw [hwrapped.bare_eq hvisible (Text.ne_of_kind hd rfl)]
    exact ⟨hv, hspelled⟩

theorem spelled_text (v : Version) : Spelled v.text v :=
  ⟨[v.major, v.minor, v.patch], 0, List.cons_ne_nil _ _, List.append_nil _, rfl⟩

end Version

/-- The texts that are read as versions are those that are written as one, each as the version that
it is written as; any other text is refused by name. Every version is read back from its text,
whatever blanks stand around it and with a `v` in front or without. -/
theorem Rules.version_exact :
    (∀ text v, version text = .ok v ↔ Version.Written text v) ∧
    (∀ text, (∀ v, ¬ Version.Written text v) → version text = .error (.invalidVersion text)) ∧
    ∀ (v : Version) (text : String), v.WellFormed → Version.Wrapped v.text text →
      version text = .ok v := by
  refine ⟨fun text v => version_eq_ok.trans Version.parse?_eq_some, fun text hnone => ?_,
    fun v text hv hwrapped => version_eq_ok.2 (Version.parse?_eq_some.2
      ⟨hv, v.text, v.spelled_text, hwrapped⟩)⟩
  have hunread : Version.parse? text = none :=
    Option.eq_none_iff_forall_ne_some.2 fun v hv => hnone v (Version.parse?_eq_some.1 hv)
  rw [version, hunread]

namespace Version.Sample

/-- A version with a pre-release and a build. -/
def build : Version := ⟨8, 0, 36, [.number 28, .word ['r', 'c', '-', '1']], [['0', '7']]⟩

/-- A version that can be written with a short core. -/
def short : Version := ⟨6, 0, 0, [.number 4, .number 0], [['1'], ['-', '2']]⟩

theorem build_wellFormed : build.WellFormed := by
  refine ⟨fun i hi => ?_, fun ds hds => ?_⟩
  · rcases List.mem_cons.1 hi with rfl | hi
    · trivial
    · rw [List.mem_singleton.1 hi]
      exact ⟨isIdentifier_iff.2 rfl, 'r', by decide, by decide⟩
  · rw [List.mem_singleton.1 hds]
    exact isIdentifier_iff.2 rfl

end Version.Sample

/-- A version is read back from between blanks, behind a `v`; points and numbers in the suffix of a
short core are no part of the core; and a core of four numbers is refused. -/
theorem Rules.version_exact_of_sample :
    version "\tv8.0.36-28.rc-1+07 \n" = .ok Version.Sample.build ∧
      Version.Written "6.0-4.0+1.-2" Version.Sample.short ∧
      version "1.2.3.4" = .error (.invalidVersion "1.2.3.4") := by
  obtain ⟨hread, hrefused, hback⟩ := version_exact
  have hshort : Version.parse? "6.0-4.0+1.-2" = some Version.Sample.short := by decide
  have hfour : Version.parse? "1.2.3.4" = none := by decide
  refine ⟨hback Version.Sample.build _ Version.Sample.build_wellFormed
    ⟨['\t'], ['v'], [' ', '\n'], List.all_eq_true.1 rfl, .inr rfl, List.all_eq_true.1 rfl, rfl⟩,
    (hread _ _).1 (version_eq_ok.2 hshort), hrefused _ fun v hv => ?_⟩
  have hok := version_eq_ok.1 ((hread _ v).2 hv)
  rw [hfour] at hok
  cases hok

end ClusterAdmission
