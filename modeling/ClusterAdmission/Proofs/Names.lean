import ClusterAdmission.Names
import ClusterAdmission.Proofs.Text.Pattern

/-!
# What names are

Names and their parts are characters of one class with characters of another class at the ends
(`Names.Framed`), whether a pattern singles out the first one or the last one. A text is a label
exactly if it has the properties of a label of RFC 1035 (`Names.isLabel_iff`). An address starts
with one of two schemes (`Names.isUrl_iff`) and has no blanks (`Names.isBlank_of_isUrl`).
-/

namespace ClusterAdmission

/-- A label as in RFC 1035: lowercase letters, digits and hyphens, a letter in front and no hyphen
at the end. -/
structure Names.Label (name : String) : Prop where
  size : name.utf8ByteSize ≤ 63
  chars (c : Char) : c ∈ name.toList → isLowerOrDigit c ∨ c = '-'
  start : ∃ c, name.toList.head? = some c ∧ isLower c
  stop : name.toList.getLast? ≠ some '-'

namespace Names

open Text.Pattern

/-! ## Framed texts -/

/-- One character or more of the class `inner`, the first and the last one of the class `outer`. -/
structure Framed (outer inner : Char → Bool) (cs : List Char) : Prop where
  start : ∃ c, cs.head? = some c ∧ outer c
  stop : ∃ c, cs.getLast? = some c ∧ outer c
  chars (c : Char) : c ∈ cs → inner c

variable {outer inner : Char → Bool} {cs : List Char}

theorem framed_iff (h : ∀ c, outer c → inner c) : Framed outer inner cs ↔
    (∃ c, outer c ∧ cs = [c]) ∨
      ∃ c mid d, outer c ∧ (∀ e ∈ mid, inner e) ∧ outer d ∧ cs = c :: (mid ++ [d]) := by
  have hlast (c d : Char) (mid : List Char) : (c :: (mid ++ [d])).getLast? = some d := by
    rw [← List.cons_append, List.getLast?_concat]
  constructor
  · rintro ⟨⟨c, hc, houter⟩, ⟨d, hd, houter'⟩, hchars⟩
    obtain ⟨rest, rfl⟩ := List.head?_eq_some_iff.1 hc
    rcases rest.eq_nil_or_concat with rfl | ⟨mid, e, rfl⟩
    · exact .inl ⟨c, houter, rfl⟩
    · rw [List.concat_eq_append] at hd hchars ⊢
      obtain rfl := Option.some.inj ((hlast c e mid).symm.trans hd)
      exact .inr ⟨c, mid, e, houter, fun f hf => hchars f (by simp [hf]), houter', rfl⟩
  · rintro (⟨c, hc, rfl⟩ | ⟨c, mid, d, hc, hmid, hd, rfl⟩)
    · exact ⟨⟨c, rfl, hc⟩, ⟨c, rfl, hc⟩, by simpa using h c hc⟩
    · refine ⟨⟨c, rfl, hc⟩, ⟨d, hlast c d mid, hd⟩, fun e he => ?_⟩
      rcases List.mem_cons.1 he with rfl | he
      · exact h e hc
      · rcases List.mem_append.1 he with he | he
        · exact hmid e he
        · obtain rfl := List.mem_singleton.1 he
          exact h e hd

/-- The first character stands alone, or before others that end in one like it. -/
theorem mem_framed_first (h : ∀ c, outer c → inner c) :
    cs ∈ (seq (one outer) (optional (seq (many (one inner)) (one outer)))).language ↔
      Framed outer inner cs := by
  rw [framed_iff h, mem_seq]
  constructor
  · rintro ⟨_, ⟨c, hc, rfl⟩, back, hback, rfl⟩
    rcases mem_optional.1 hback with hback | rfl
    · obtain ⟨mid, hmid, _, ⟨d, hd, rfl⟩, rfl⟩ := mem_seq.1 hback
      exact .inr ⟨c, mid, d, hc, mem_many_one.1 hmid, hd, rfl⟩
    · exact .inl ⟨c, hc, rfl⟩
  · rintro (⟨c, hc, rfl⟩ | ⟨c, mid, d, hc, hmid, hd, rfl⟩)
    · exact ⟨[c], ⟨c, hc, rfl⟩, [], mem_optional.2 (.inr rfl), rfl⟩
    · have hback := mem_seq.2 ⟨mid, mem_many_one.2 hmid, [d], mem_one.2 ⟨d, hd, rfl⟩, rfl⟩
      exact ⟨[c], ⟨c, hc, rfl⟩, mid ++ [d], mem_optional.2 (.inl hback), rfl⟩

/-- The last character stands alone, or behind others that start with one like it. -/
theorem mem_framed_last (h : ∀ c, outer c → inner c) :
    cs ∈ (seq (optional (seq (one outer) (many (one inner)))) (one outer)).language ↔
      Framed outer inner cs := by
  rw [framed_iff h, mem_seq]
  constructor
  · rintro ⟨front, hfront, _, ⟨d, hd, rfl⟩, rfl⟩
    rcases mem_optional.1 hfront with hfront | rfl
    · obtain ⟨_, ⟨c, hc, rfl⟩, mid, hmid, rfl⟩ := mem_seq.1 hfront
      exact .inr ⟨c, mid, d, hc, mem_many_one.1 hmid, hd, rfl⟩
    · exact .inl ⟨d, hd, rfl⟩
  · rintro (⟨c, hc, rfl⟩ | ⟨c, mid, d, hc, hmid, hd, rfl⟩)
    · exact ⟨[], mem_optional.2 (.inr rfl), [c], ⟨c, hc, rfl⟩, rfl⟩
    · have hfront := mem_seq.2 ⟨[c], mem_one.2 ⟨c, hc, rfl⟩, mid, mem_many_one.2 hmid, rfl⟩
      exact ⟨c :: mid, mem_optional.2 (.inl hfront), [d], ⟨d, hd, rfl⟩, rfl⟩

theorem isDomainChar_of_isLowerOrDigit (c : Char) (h : isLowerOrDigit c) : isDomainChar c := by
  rw [isDomainChar, h, Bool.or_true]

theorem mem_partPattern : cs ∈ partPattern.language ↔ Framed isLowerOrDigit isDomainChar cs :=
  mem_framed_first isDomainChar_of_isLowerOrDigit

theorem isLabel_iff {name : String} : isLabel name ↔ Label name := by
  have hchars (c : Char) : isDomainChar c ↔ isLowerOrDigit c ∨ c = '-' := by
    simp [isDomainChar, or_comm]
  rw [isLabel, Bool.and_eq_true, Bool.and_eq_true, decide_eq_true_eq, accepts_iff, mem_partPattern,
    Option.any_eq_true]
  constructor
  · rintro ⟨⟨hsize, -, ⟨d, hd, hlast⟩, hall⟩, hstart⟩
    refine ⟨hsize, fun c hc => (hchars c).1 (hall c hc), hstart, fun hstop => ?_⟩
    obtain rfl := Option.some.inj (hd.symm.trans hstop)
    exact absurd hlast (by decide)
  · rintro ⟨hsize, hall, ⟨c, hc, hlower⟩, hstop⟩
    have hne : name.toList ≠ [] := fun hnil => by simp [hnil] at hc
    have hlast := List.getLast?_eq_some_getLast hne
    refine ⟨⟨hsize, ⟨c, hc, ?_⟩, ⟨_, hlast, ?_⟩, fun d hd => (hchars d).2 (hall d hd)⟩, c, hc, hlower⟩
    · rw [isLowerOrDigit, hlower, Bool.true_or]
    · refine (hall _ (List.getLast_mem hne)).resolve_right fun hdash => ?_
      exact hstop (hlast.trans (congrArg some hdash))

/-! ## Addresses -/

theorem isUrl_iff {url : String} : isUrl url ↔
    ∃ scheme rest, (scheme = "https://".toList ∨ scheme = "http://".toList) ∧
      url.toList = scheme ++ rest ∧ isAddressRest rest := by
  unfold isUrl
  constructor
  · intro h
    split at h
    · next hhttps => exact ⟨_, _, .inl rfl, Text.dropStart?_eq_some.1 hhttps, h⟩
    · split at h
      · next hhttp => exact ⟨_, _, .inr rfl, Text.dropStart?_eq_some.1 hhttp, h⟩
      · cases h
  · rintro ⟨_, rest, rfl | rfl, hurl, hrest⟩
    · rw [hurl, Text.dropStart?_eq_some.2 rfl]
      exact hrest
    · have hhttps : Text.dropStart? "https://".toList ("http://".toList ++ rest) = none := rfl
      rw [hurl, hhttps, Text.dropStart?_eq_some.2 rfl]
      exact hrest

theorem isLetterOrDigit_iff {c : Char} : isLetterOrDigit c ↔
    (65 ≤ c.toNat ∧ c.toNat ≤ 90 ∨ 97 ≤ c.toNat ∧ c.toNat ≤ 122) ∨
      48 ≤ c.toNat ∧ c.toNat ≤ 57 := by
  change ((65 ≤ c.val ∧ c.val ≤ 90 || 97 ≤ c.val && c.val ≤ 122) ||
    48 ≤ c.val && c.val ≤ 57) = true ↔ _
  simp [UInt32.le_iff_toNat_le]

theorem isBlank_of_isLetterOrDigit {c : Char} (h : isLetterOrDigit c) : Text.isBlank c = false := by
  have hcode := isLetterOrDigit_iff.1 h
  exact Text.isBlank_of_visible (by omega) (by omega)

theorem isBlank_of_isAddressRest {cs : List Char} (h : isAddressRest cs) :
    ∀ c ∈ cs, Text.isBlank c = false := by
  cases cs with
  | nil => exact nofun
  | cons c cs =>
    rw [isAddressRest, Bool.and_eq_true, Bool.and_eq_true, Bool.or_eq_true, beq_iff_eq,
      List.all_eq_true, List.all_eq_true] at h
    obtain ⟨⟨hc, hauthority⟩, hpath⟩ := h
    refine List.forall_mem_cons.2 ⟨?_, fun d hd => ?_⟩
    · rcases hc with hc | rfl
      · exact isBlank_of_isLetterOrDigit hc
      · decide
    · rw [← List.takeWhile_append_dropWhile (p := (· != '/')) (l := cs), List.mem_append] at hd
      rcases hd with hd | hd
      · have hall := hauthority d hd
        simp only [Bool.and_eq_true, Bool.not_eq_eq_eq_not, Bool.not_true] at hall
        exact hall.1.1
      · simpa using hpath d hd

/-- An address has no blanks. -/
theorem isBlank_of_isUrl {url : String} (h : isUrl url) :
    ∀ c ∈ url.toList, Text.isBlank c = false := by
  obtain ⟨scheme, rest, hscheme, hurl, hrest⟩ := isUrl_iff.1 h
  have hnone : scheme.any Text.isBlank = false := by
    rcases hscheme with rfl | rfl <;> rfl
  rw [hurl]
  exact List.forall_mem_append.2
    ⟨fun c hc => by simpa using List.any_eq_false.1 hnone c hc, isBlank_of_isAddressRest hrest⟩

end Names

end ClusterAdmission
