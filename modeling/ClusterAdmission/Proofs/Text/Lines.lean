import ClusterAdmission.Proofs.Text.Blank
import ClusterAdmission.Proofs.Text.Split

/-!
# Lines and their ends

How lines end and which blanks stand behind what they say makes no difference once the blanks at
their ends are dropped: a text that is written line by line says the same lines
(`Text.map_trimEnd_splitOn_written`).
-/

namespace ClusterAdmission.Text

variable {cs rest : List Char}

/-! ## Cutting at line feeds -/

theorem trimEnd_dropReturn (cs : List Char) : trimEnd (dropReturn cs) = trimEnd cs := by
  unfold dropReturn
  cases h : dropEnd? ['\r'] cs with
  | none => rfl
  | some front =>
    rw [dropEnd?_eq_some.1 h, trimEnd_append_of_blank front (List.all_eq_true.1 (by decide))]
    rfl

/-- Lines are the parts between line feeds, but for blanks at their ends, unless the last part is
empty. -/
theorem map_trimEnd_lines (hne : cs ≠ []) (hlast : ∀ c ∈ cs.getLast?, isBlank c = false) :
    (lines cs).map trimEnd = (splitOn '\n' cs).map trimEnd := by
  obtain ⟨init, last, hsplit, hrest⟩ : ∃ init last, splitOn '\n' cs = init ++ [last] ∧ last ≠ [] := by
    by_cases hmem : '\n' ∈ cs
    · obtain ⟨before, after, rfl, hafter⟩ := eq_append_cons_of_last hmem
      refine ⟨splitOn '\n' before, after, ?_, ?_⟩
      · rw [splitOn_append, splitOn_of_not_mem hafter]
      · rintro rfl
        exact absurd (hlast '\n' (by simp)) (by decide)
    · exact ⟨[], cs, splitOn_of_not_mem hmem, hne⟩
  cases last with
  | nil => exact absurd rfl hrest
  | cons d ds => simp [lines, hsplit, trimEnd_dropReturn]

/-! ## Written lines -/

/-- How a line ends. -/
inductive LineEnd where
  | lf
  | crlf

/-- What an end has in front of its line feed. -/
def LineEnd.front : LineEnd → List Char
  | lf => []
  | crlf => ['\r']

/-- A line: what it says, blanks behind that, and how it ends. -/
structure Line where
  text : List Char
  blanks : List Char
  ending : LineEnd
  text_inline : '\n' ∉ text
  text_last : ∀ c ∈ text.getLast?, isBlank c = false
  blanks_inline : '\n' ∉ blanks
  blanks_blank : ∀ c ∈ blanks, isBlank c

namespace Line

/-- What stands in front of the line feed. -/
def front (l : Line) : List Char := l.text ++ (l.blanks ++ l.ending.front)

/-- The line as it is written. -/
def written (l : Line) : List Char := l.front ++ ['\n']

theorem not_mem_front (l : Line) : '\n' ∉ l.front := by
  have hending : '\n' ∉ l.ending.front := by cases l.ending <;> decide
  simp [front, l.text_inline, l.blanks_inline, hending]

theorem trimEnd_front (l : Line) : trimEnd l.front = l.text := by
  have hending : ∀ c ∈ l.ending.front, isBlank c :=
    List.all_eq_true.1 (by cases l.ending <;> decide)
  have hblanks : ∀ c ∈ l.blanks ++ l.ending.front, isBlank c :=
    List.forall_mem_append.2 ⟨l.blanks_blank, hending⟩
  rw [front, trimEnd_append_of_blank l.text hblanks, trimEnd_eq_self l.text_last]

end Line

theorem map_trimEnd_splitOn_written (ls : List Line) (rest : List Char) :
    (splitOn '\n' (ls.flatMap Line.written ++ rest)).map trimEnd =
      ls.map Line.text ++ (splitOn '\n' rest).map trimEnd := by
  induction ls with
  | nil => rfl
  | cons l ls ih =>
    have hcut : (l :: ls).flatMap Line.written ++ rest =
        l.front ++ '\n' :: (ls.flatMap Line.written ++ rest) := by
      simp [Line.written]
    rw [hcut, splitOn_append, splitOn_of_not_mem l.not_mem_front, List.map_append, ih,
      List.map_singleton, l.trimEnd_front]
    rfl

end ClusterAdmission.Text
