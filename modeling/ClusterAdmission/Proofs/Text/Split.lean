import ClusterAdmission.Text.Split

/-!
# What texts are cut into

A text is cut into exactly those parts that make it up again with the character between them, where
the part in front of the first occurrence, or behind the last one, is without that character.
-/

namespace ClusterAdmission.Text

variable {c : Char} {cs before after start rest : List Char}

theorem dropStart?_eq_some : dropStart? start cs = some rest ↔ cs = start ++ rest := by
  induction start generalizing cs with
  | nil => simp [dropStart?]
  | cons p ps ih =>
    cases cs with
    | nil => simp [dropStart?]
    | cons d ds =>
      by_cases h : p = d
      · simp [dropStart?, h, ih]
      · simp [dropStart?, h, Ne.symm h]

theorem dropStart?_singleton_eq_none : dropStart? [c] cs = none ↔ cs.head? ≠ some c := by
  cases cs with
  | nil => simp [dropStart?]
  | cons d ds =>
    by_cases h : c = d
    · simp [dropStart?, h]
    · simp [dropStart?, h, Ne.symm h]

theorem dropEnd?_eq_some : dropEnd? rest cs = some before ↔ cs = before ++ rest := by
  rw [dropEnd?, Option.map_eq_some_iff]
  constructor
  · rintro ⟨front, hfront, rfl⟩
    rw [← List.reverse_inj, List.reverse_append, List.reverse_reverse]
    exact dropStart?_eq_some.1 hfront
  · rintro rfl
    exact ⟨before.reverse, dropStart?_eq_some.2 List.reverse_append, List.reverse_reverse before⟩

/-! ## The first of some characters -/

/-- A text is cut in front of the first character that does not belong to the front. -/
theorem takeWhile_dropWhile_append {p : Char → Bool} {front back : List Char}
    (hfront : ∀ d ∈ front, p d) (hback : ∀ d ∈ back.head?, p d = false) :
    (front ++ back).takeWhile p = front ∧ (front ++ back).dropWhile p = back := by
  rw [List.takeWhile_append_of_pos hfront, List.dropWhile_append_of_pos hfront]
  cases back with
  | nil => simp
  | cons d ds =>
    have hd : p d = false := hback d rfl
    simp [hd]

/-! ## All occurrences -/

theorem splitOn_cons_self (c : Char) (cs : List Char) :
    splitOn c (c :: cs) = [] :: splitOn c cs := by
  simp [splitOn, splitBy]

theorem splitOn_cons_of_ne {d : Char} (h : d ≠ c) (cs : List Char) :
    ∃ part parts, splitOn c cs = part :: parts ∧ splitOn c (d :: cs) = (d :: part) :: parts := by
  obtain ⟨part, parts, hsplit⟩ := List.exists_cons_of_ne_nil (splitBy_ne_nil (· == c) cs)
  exact ⟨part, parts, hsplit, by simp [splitOn, splitBy, h, hsplit]⟩

theorem not_mem_of_mem_splitOn : ∀ part ∈ splitOn c cs, c ∉ part := by
  induction cs with
  | nil => simp [splitOn, splitBy]
  | cons d ds ih =>
    by_cases h : d = c
    · subst h
      rw [splitOn_cons_self]
      exact List.forall_mem_cons.2 ⟨List.not_mem_nil, ih⟩
    · obtain ⟨part, parts, hsplit, hcons⟩ := splitOn_cons_of_ne h ds
      rw [hsplit] at ih
      obtain ⟨hpart, hparts⟩ := List.forall_mem_cons.1 ih
      rw [hcons]
      exact List.forall_mem_cons.2 ⟨List.not_mem_cons_of_ne_of_not_mem (Ne.symm h) hpart, hparts⟩

theorem length_splitOn (c : Char) (cs : List Char) : (splitOn c cs).length = cs.count c + 1 := by
  induction cs with
  | nil => rfl
  | cons d ds ih =>
    by_cases h : d = c
    · subst h
      rw [splitOn_cons_self, List.length_cons, ih, List.count_cons_self]
    · obtain ⟨part, parts, hsplit, hcons⟩ := splitOn_cons_of_ne h ds
      rw [hcons, List.count_cons_of_ne h, ← ih, hsplit, List.length_cons, List.length_cons]

theorem splitOn_of_not_mem (h : c ∉ cs) : splitOn c cs = [cs] := by
  induction cs with
  | nil => rfl
  | cons d ds ih =>
    obtain ⟨hne, hrest⟩ := List.ne_and_not_mem_of_not_mem_cons h
    obtain ⟨part, parts, hsplit, hcons⟩ := splitOn_cons_of_ne hne.symm ds
    rw [ih hrest] at hsplit
    cases hsplit
    exact hcons

theorem splitOn_append (c : Char) (before after : List Char) :
    splitOn c (before ++ c :: after) = splitOn c before ++ splitOn c after := by
  induction before with
  | nil => exact splitOn_cons_self c after
  | cons d ds ih =>
    by_cases h : d = c
    · subst h
      rw [List.cons_append, splitOn_cons_self, splitOn_cons_self, ih, List.cons_append]
    · obtain ⟨part, parts, hsplit, hcons⟩ := splitOn_cons_of_ne h ds
      obtain ⟨part', parts', hsplit', hcons'⟩ := splitOn_cons_of_ne h (ds ++ c :: after)
      rw [ih, hsplit, List.cons_append] at hsplit'
      cases hsplit'
      rw [List.cons_append, hcons', hcons, List.cons_append]

theorem splitOn_joinWith {parts : List (List Char)} (hne : parts ≠ []) (h : ∀ p ∈ parts, c ∉ p) :
    splitOn c (joinWith c parts) = parts := by
  induction parts with
  | nil => exact absurd rfl hne
  | cons part parts ih =>
    obtain ⟨hpart, hparts⟩ := List.forall_mem_cons.1 h
    cases parts with
    | nil => exact splitOn_of_not_mem hpart
    | cons q qs =>
      rw [joinWith, splitOn_append, splitOn_of_not_mem hpart, ih (List.cons_ne_nil q qs) hparts,
        List.singleton_append]
      simp

theorem joinWith_cons (c : Char) (part : List Char) (parts : List (List Char)) :
    joinWith c (part :: parts) = part ++ parts.flatMap (c :: ·) := by
  induction parts generalizing part with
  | nil => simp [joinWith]
  | cons q qs ih => simp [joinWith, ih]

theorem splitOn_inj (c : Char) {cs ds : List Char} : splitOn c cs = splitOn c ds ↔ cs = ds := by
  refine ⟨fun h => ?_, fun h => h ▸ rfl⟩
  rw [← joinWith_splitOn c cs, h, joinWith_splitOn]

theorem mem_joinWith {d : Char} {parts : List (List Char)} (h : d ∈ joinWith c parts) :
    d = c ∨ ∃ p ∈ parts, d ∈ p := by
  induction parts with
  | nil => cases h
  | cons part parts ih =>
    cases parts with
    | nil => exact .inr ⟨part, List.mem_cons_self, h⟩
    | cons q qs =>
      rw [joinWith] at h
      · rcases List.mem_append.1 h with hpart | hrest
        · exact .inr ⟨part, List.mem_cons_self, hpart⟩
        · rcases List.mem_cons.1 hrest with heq | hrest
          · exact .inl heq
          · rcases ih hrest with heq | ⟨p, hp, hd⟩
            · exact .inl heq
            · exact .inr ⟨p, List.mem_cons_of_mem _ hp, hd⟩
      · simp

/-- The parts of a text are those without the character that make it up when joined. -/
theorem splitOn_eq_iff {parts : List (List Char)} :
    splitOn c cs = parts ↔ parts ≠ [] ∧ (∀ p ∈ parts, c ∉ p) ∧ cs = joinWith c parts := by
  constructor
  · rintro rfl
    exact ⟨splitBy_ne_nil _ cs, not_mem_of_mem_splitOn, (joinWith_splitOn c cs).symm⟩
  · rintro ⟨hne, hparts, rfl⟩
    exact splitOn_joinWith hne hparts

theorem mapM_eq_some_iff {α : Type} {read : List Char → Option α} {valid : α → Prop}
    {text : α → List Char} (hread : ∀ ds a, read ds = some a ↔ valid a ∧ ds = text a)
    {parts : List (List Char)} {as : List α} :
    parts.mapM read = some as ↔ (∀ a ∈ as, valid a) ∧ parts = as.map text := by
  induction parts generalizing as with
  | nil =>
    cases as with
    | nil => simp
    | cons a as => simp
  | cons part parts ih =>
    simp only [List.mapM_cons, bind, pure, Option.bind_eq_some_iff, Option.some.injEq, hread, ih]
    cases as with
    | nil => simp
    | cons a as =>
      simp only [List.cons.injEq, List.forall_mem_cons, List.map_cons]
      constructor
      · rintro ⟨_, ⟨ha, rfl⟩, _, ⟨has, rfl⟩, rfl, rfl⟩
        exact ⟨⟨ha, has⟩, rfl, rfl⟩
      · rintro ⟨⟨ha, has⟩, rfl, rfl⟩
        exact ⟨a, ⟨ha, rfl⟩, as, ⟨has, rfl⟩, rfl, rfl⟩

/-- A list of texts with `c` between them is read exactly if its parts are the texts of what is
read. -/
theorem mapM_splitOn_eq_some {α : Type} {read : List Char → Option α} {valid : α → Prop}
    {text : α → List Char} (hread : ∀ ds a, read ds = some a ↔ valid a ∧ ds = text a)
    (htext : ∀ a, valid a → c ∉ text a) {as : List α} :
    (splitOn c cs).mapM read = some as ↔
      (∀ a ∈ as, valid a) ∧ as ≠ [] ∧ cs = joinWith c (as.map text) := by
  rw [mapM_eq_some_iff hread, splitOn_eq_iff]
  constructor
  · rintro ⟨hvalid, hne, -, hcs⟩
    exact ⟨hvalid, fun h => hne (by rw [h, List.map_nil]), hcs⟩
  · rintro ⟨hvalid, hne, hcs⟩
    refine ⟨hvalid, fun h => hne (List.map_eq_nil_iff.1 h), fun part hpart => ?_, hcs⟩
    obtain ⟨a, ha, rfl⟩ := List.mem_map.1 hpart
    exact htext a (hvalid a ha)

/-! ## The first occurrence -/

theorem cutFirst_append (h : c ∉ before) (after : List Char) :
    cutFirst c (before ++ c :: after) = some (before, after) := by
  induction before with
  | nil => simp [cutFirst]
  | cons d ds ih =>
    obtain ⟨hne, hrest⟩ := List.ne_and_not_mem_of_not_mem_cons h
    simp [cutFirst, hne.symm, ih hrest]

theorem cutFirst_of_not_mem (h : c ∉ cs) : cutFirst c cs = none := by
  induction cs with
  | nil => rfl
  | cons d ds ih =>
    obtain ⟨hne, hrest⟩ := List.ne_and_not_mem_of_not_mem_cons h
    simp [cutFirst, hne.symm, ih hrest]

theorem cutFirst_eq_some :
    cutFirst c cs = some (before, after) ↔ cs = before ++ c :: after ∧ c ∉ before := by
  constructor
  · intro h
    by_cases hmem : c ∈ cs
    · obtain ⟨front, back, rfl, hfront⟩ := List.eq_append_cons_of_mem hmem
      rw [cutFirst_append hfront] at h
      cases h
      exact ⟨rfl, hfront⟩
    · rw [cutFirst_of_not_mem hmem] at h
      cases h
  · rintro ⟨rfl, h⟩
    exact cutFirst_append h after

/-! ## The last occurrence -/

theorem cutLast_of_not_mem (h : c ∉ cs) : cutLast c cs = none := by
  induction cs with
  | nil => rfl
  | cons d ds ih =>
    obtain ⟨hne, hrest⟩ := List.ne_and_not_mem_of_not_mem_cons h
    simp [cutLast, hne.symm, ih hrest]

theorem cutLast_append (before : List Char) (h : c ∉ after) :
    cutLast c (before ++ c :: after) = some (before, after) := by
  induction before with
  | nil => simp [cutLast, cutLast_of_not_mem h]
  | cons d ds ih => simp [cutLast, ih]

/-- The last occurrence is the first one from behind. -/
theorem eq_append_cons_of_last (h : c ∈ cs) :
    ∃ before after, cs = before ++ c :: after ∧ c ∉ after := by
  obtain ⟨back, front, hreverse, hback⟩ := List.eq_append_cons_of_mem (List.mem_reverse.2 h)
  refine ⟨front.reverse, back.reverse, ?_, fun h => hback (List.mem_reverse.1 h)⟩
  rw [← List.reverse_reverse cs, hreverse]
  simp

theorem cutLast_eq_none : cutLast c cs = none ↔ c ∉ cs := by
  refine ⟨fun h hmem => ?_, cutLast_of_not_mem⟩
  obtain ⟨before, after, rfl, hafter⟩ := eq_append_cons_of_last hmem
  rw [cutLast_append before hafter] at h
  cases h

theorem cutLast_eq_some :
    cutLast c cs = some (before, after) ↔ cs = before ++ c :: after ∧ c ∉ after := by
  constructor
  · intro h
    by_cases hmem : c ∈ cs
    · obtain ⟨front, back, rfl, hback⟩ := eq_append_cons_of_last hmem
      rw [cutLast_append front hback] at h
      cases h
      exact ⟨rfl, hback⟩
    · rw [cutLast_of_not_mem hmem] at h
      cases h
  · rintro ⟨rfl, h⟩
    exact cutLast_append before h

end ClusterAdmission.Text
