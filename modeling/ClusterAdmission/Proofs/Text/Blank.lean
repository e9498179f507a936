import ClusterAdmission.Text.Blank

/-!
# What trimming leaves

Blanks count only up to the first character that is not blank, from either side: such a character
stays, with all that lies on its other side.
-/

namespace ClusterAdmission.Text

variable {c : Char} {cs front back : List Char}

theorem trimStart_append_cons (hfront : ∀ d ∈ front, isBlank d) (hc : isBlank c = false)
    (cs : List Char) : trimStart (front ++ c :: cs) = c :: cs := by
  rw [trimStart, List.dropWhile_append_of_pos hfront, List.dropWhile_cons_of_neg (by simp [hc])]

theorem trimEnd_append_cons (front : List Char) (hc : isBlank c = false) (cs : List Char) :
    trimEnd (front ++ c :: cs) = front ++ c :: trimEnd cs := by
  have hreverse : (front ++ c :: cs).reverse = cs.reverse ++ c :: front.reverse := by simp
  rw [trimEnd, hreverse, trimEnd]
  -- What is dropped from behind ends at `c` or before it.
  cases hrest : cs.reverse.dropWhile isBlank with
  | nil =>
    rw [List.dropWhile_append, hrest]
    simp [hc]
  | cons d ds =>
    rw [List.dropWhile_append, hrest]
    simp

theorem trimEnd_cons (hc : isBlank c = false) (cs : List Char) :
    trimEnd (c :: cs) = c :: trimEnd cs := trimEnd_append_cons [] hc cs

theorem trimEnd_append_of_blank (cs : List Char) (h : ∀ d ∈ back, isBlank d) :
    trimEnd (cs ++ back) = trimEnd cs := by
  have hreverse : ∀ d ∈ back.reverse, isBlank d := fun d hd => h d (List.mem_reverse.1 hd)
  rw [trimEnd, List.reverse_append, List.dropWhile_append_of_pos hreverse, trimEnd]

theorem trimEnd_of_blank (h : ∀ d ∈ back, isBlank d) : trimEnd back = [] :=
  trimEnd_append_of_blank [] h

theorem trimEnd_eq_self (h : ∀ d ∈ cs.getLast?, isBlank d = false) : trimEnd cs = cs := by
  rcases cs.eq_nil_or_concat with rfl | ⟨ds, d, rfl⟩
  · rfl
  · have hd : isBlank d = false := h d (by simp)
    rw [List.concat_eq_append]
    exact trimEnd_append_cons ds hd []

theorem isBlank_of_getLast?_trim (cs : List Char) : ∀ c ∈ (trim cs).getLast?, isBlank c = false := by
  intro c hc
  rw [trim, trimEnd, List.getLast?_reverse] at hc
  simpa [Option.mem_def.1 hc] using List.head?_dropWhile_not isBlank (trimStart cs).reverse

/-- Between the first and the last character that are not blank nothing is trimmed. -/
theorem trim_frame {core : List Char} (hfront : ∀ d ∈ front, isBlank d)
    (hfirst : ∃ c, core.head? = some c ∧ isBlank c = false)
    (hlast : ∃ c, core.getLast? = some c ∧ isBlank c = false) (tail : List Char) :
    trim (front ++ (core ++ tail)) = core ++ trimEnd tail := by
  obtain ⟨c, hc, hcBlank⟩ := hfirst
  obtain ⟨d, hd, hdBlank⟩ := hlast
  obtain ⟨cs, rfl⟩ := List.head?_eq_some_iff.1 hc
  obtain ⟨ds, hds⟩ := List.getLast?_eq_some_iff.1 hd
  rw [trim, List.cons_append, trimStart_append_cons hfront hcBlank, ← List.cons_append, hds,
    List.append_assoc, List.singleton_append, trimEnd_append_cons ds hdBlank, List.append_assoc,
    List.singleton_append]

/-- Blanks around a text that has none are all that is dropped. -/
theorem trim_append (hfront : ∀ d ∈ front, isBlank d) (hcs : ∀ d ∈ cs, isBlank d = false)
    (hne : cs ≠ []) (hback : ∀ d ∈ back, isBlank d) : trim (front ++ cs ++ back) = cs := by
  have hfirst := hcs _ (List.head_mem hne)
  have hlast := hcs _ (List.getLast_mem hne)
  rw [List.append_assoc, trim_frame hfront ⟨_, List.head?_eq_some_head hne, hfirst⟩
    ⟨_, List.getLast?_eq_some_getLast hne, hlast⟩, trimEnd_of_blank hback, List.append_nil]

/-- A text without blanks stays as it is. -/
theorem trim_eq_self (h : ∀ d ∈ cs, isBlank d = false) : trim cs = cs := by
  cases cs with
  | nil => rfl
  | cons c cs =>
    have htrim := trim_append (List.forall_mem_nil _) h (List.cons_ne_nil c cs)
      (List.forall_mem_nil _)
    rwa [List.append_nil] at htrim

/-- Trimming takes blanks from both ends and nothing else. -/
theorem exists_blanks (cs : List Char) : ∃ front back, (∀ c ∈ front, isBlank c) ∧
    (∀ c ∈ back, isBlank c) ∧ cs = front ++ trim cs ++ back := by
  have hall (ds : List Char) : ∀ c ∈ ds.takeWhile isBlank, isBlank c :=
    List.all_eq_true.1 List.all_takeWhile
  refine ⟨cs.takeWhile isBlank, ((trimStart cs).reverse.takeWhile isBlank).reverse, hall cs,
    fun c hc => hall _ c (List.mem_reverse.1 hc), ?_⟩
  have hend : trim cs ++ ((trimStart cs).reverse.takeWhile isBlank).reverse = trimStart cs := by
    rw [trim, trimEnd, ← List.reverse_append, List.takeWhile_append_dropWhile, List.reverse_reverse]
  rw [List.append_assoc, hend, trimStart, List.takeWhile_append_dropWhile]

end ClusterAdmission.Text
