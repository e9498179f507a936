import ClusterAdmission.Proofs.Names
import ClusterAdmission.Proofs.Text.Lines
import ClusterAdmission.Rules.Certificate
import Mathlib.Data.Bool.AllAny

/-!
# What a block is

An armor is a text written as a block is: a line that begins it with a label, lines of payload, and
a line that ends it with a label, with any blanks around the text and at the ends of its lines. It is
a block exactly if it is proper: both labels are the same, and every line of the payload is base64.
Several armors one after another are never a block, since the line that ends the first one would
have to be a line of payload (`Rules.isPem_armor`).
-/

namespace ClusterAdmission.Rules

open Names (isLetterOrDigit isLetterOrDigit_iff)
open Text (Line)

/-! ## Lines of a block -/

/-- The characters that base64 is written with. -/
def base64Chars : List Char :=
  "ABCDEFGHIJKLMNOPQRSTUVWXYZabcdefghijklmnopqrstuvwxyz0123456789+/=".toList

theorem isPayloadChar_iff {c : Char} : isPayloadChar c ↔ c ∈ base64Chars := by
  have hascii : ∀ n < 128, isPayloadChar (.ofNat n) ↔ Char.ofNat n ∈ base64Chars := by
    decide +kernel
  rcases Nat.lt_or_ge c.toNat 128 with hc | hc
  · simpa using hascii c.toNat hc
  · refine iff_of_false (fun h => ?_) fun h => ?_
    · simp only [isPayloadChar, Bool.or_eq_true, beq_iff_eq] at h
      rcases h with ((hletter | rfl) | rfl) | rfl
      · have hcode := isLetterOrDigit_iff.1 hletter
        omega
      all_goals exact absurd hc (by decide)
    · have hlow : base64Chars.all fun d => d.toNat < 128 := by decide +kernel
      exact absurd (of_decide_eq_true (List.all_eq_true.1 hlow c h)) (by omega)

theorem isPayloadLine_iff {line : List Char} :
    isPayloadLine line ↔ line ≠ [] ∧ ∀ c ∈ line, c ∈ base64Chars := by
  simp [isPayloadLine, isPayloadChar_iff]

theorem isPayloadLine_dash (cs : List Char) : isPayloadLine ('-' :: cs) = false := by
  have hdash : isPayloadChar '-' = false := by decide
  simp [isPayloadLine, hdash]

/-- The line that begins a block with a label. -/
def beginLine (label : List Char) : List Char := "-----BEGIN ".toList ++ label ++ dashes

theorem beginLabel?_beginLine {label : List Char} (h : label ≠ []) :
    beginLabel? (beginLine label) = some label := by
  have hstart : Text.dropStart? "-----BEGIN ".toList (beginLine label) = some (label ++ dashes) :=
    Text.dropStart?_eq_some.2 (List.append_assoc _ _ _)
  rw [beginLabel?, hstart, Option.bind_some, Text.dropEnd?_eq_some.2 rfl]
  simp [h]

theorem endLine_inj {label label' : List Char} : endLine label = endLine label' ↔ label = label' := by
  have hframe (front back : List Char) :
      front ++ label ++ back = front ++ label' ++ back ↔ label = label' := by
    rw [List.append_left_inj, List.append_right_inj]
  exact hframe _ _

theorem beginLine_eq_cons (label : List Char) : ∃ cs, beginLine label = '-' :: cs := by
  have hdash : "-----BEGIN ".toList = '-' :: "----BEGIN ".toList := by decide
  unfold beginLine
  rw [hdash]
  exact ⟨_, rfl⟩

theorem endLine_eq_cons (label : List Char) : ∃ cs, endLine label = '-' :: cs := by
  have hdash : "-----END ".toList = '-' :: "----END ".toList := by decide
  unfold endLine
  rw [hdash]
  exact ⟨_, rfl⟩

theorem getLast?_endLine (label : List Char) : (endLine label).getLast? = some '-' := by
  have hdash : dashes.getLast? = some '-' := by decide
  unfold endLine
  rw [List.getLast?_append, hdash, Option.some_or]

theorem not_mem_endLine {label : List Char} (h : '\n' ∉ label) : '\n' ∉ endLine label := by
  have hstart : '\n' ∉ "-----END ".toList := by decide
  have hdash : '\n' ∉ dashes := by decide
  exact List.not_mem_append (List.not_mem_append hstart h) hdash

/-! ## Lists of lines -/

theorem isBlock_iff {label endLabel : List Char} (hlabel : label ≠ []) {payload : List (List Char)} :
    isBlock (beginLine label :: (payload ++ [endLine endLabel])) ↔
      endLabel = label ∧ payload ≠ [] ∧ ∀ line ∈ payload, isPayloadLine line := by
  simp [isBlock, beginLabel?_beginLine hlabel, endLine_inj, and_assoc]

/-- Every line of a block but its first and its last one is a line of payload. -/
theorem isPayloadLine_of_isBlock {first line : List Char} {before after : List (List Char)}
    (hafter : after ≠ []) (h : isBlock (first :: (before ++ line :: after))) :
    isPayloadLine line := by
  have hinner : (before ++ line :: after).dropLast = before ++ line :: after.dropLast := by
    rw [List.dropLast_append_of_ne_nil (List.cons_ne_nil line after),
      List.dropLast_cons_of_ne_nil hafter]
  rw [isBlock] at h
  split at h
  · rw [hinner, Bool.and_eq_true, List.all_eq_true] at h
    exact h.2 line (by simp)
  · cases h

/-! ## Armors -/

/-- A text written as a block is: a first line with a label, lines of payload, a last line with a
label, and blanks around it. -/
structure Armor where
  label : List Char
  opening : Line
  payload : List Line
  endLabel : List Char
  front : List Char
  back : List Char
  label_ne_nil : label ≠ []
  opening_text : opening.text = beginLine label
  endLabel_inline : '\n' ∉ endLabel
  front_blank : ∀ c ∈ front, Text.isBlank c
  back_blank : ∀ c ∈ back, Text.isBlank c

namespace Armor

variable (a b : Armor)

/-- The text between the blanks. -/
def core : List Char := (a.opening :: a.payload).flatMap Line.written ++ endLine a.endLabel

/-- The armor as it is written. -/
def text : List Char := a.front ++ (a.core ++ a.back)

/-- The labels are the same, and the payload is lines of base64. -/
structure Proper : Prop where
  endLabel_eq : a.endLabel = a.label
  payload_ne_nil : a.payload ≠ []
  base64 : ∀ l ∈ a.payload, l.text ≠ [] ∧ ∀ c ∈ l.text, c ∈ base64Chars

theorem core_eq_cons : ∃ cs, a.core = '-' :: cs := by
  obtain ⟨cs, hcs⟩ := beginLine_eq_cons a.label
  exact ⟨_, by rw [core, List.flatMap_cons, Line.written, Line.front, a.opening_text, hcs,
    List.cons_append, List.cons_append, List.cons_append, List.cons_append]⟩

theorem getLast?_core : a.core.getLast? = some '-' := by
  rw [core, List.getLast?_append, getLast?_endLine, Option.some_or]

/-- A text that is trimmed to an armor and something behind it is read line by line. -/
theorem isPem_iff_of_trim {cs tail : List Char} (h : Text.trim cs = a.core ++ tail) :
    isPem (.ofList cs) ↔ isBlock (beginLine a.label :: (a.payload.map Line.text ++
      (Text.splitOn '\n' (endLine a.endLabel ++ tail)).map Text.trimEnd)) := by
  have hlines : (Text.splitOn '\n' (a.core ++ tail)).map Text.trimEnd =
      beginLine a.label :: (a.payload.map Line.text ++
        (Text.splitOn '\n' (endLine a.endLabel ++ tail)).map Text.trimEnd) := by
    rw [core, List.append_assoc, Text.map_trimEnd_splitOn_written, List.map_cons, a.opening_text,
      List.cons_append]
  have hne : Text.trim cs ≠ [] := by
    obtain ⟨ds, hds⟩ := a.core_eq_cons
    rw [h, hds]
    exact List.cons_ne_nil _ _
  rw [isPem, String.toList_ofList, Text.map_trimEnd_lines hne (Text.isBlank_of_getLast?_trim cs), h,
    hlines]

theorem trim_append (tail : List Char) :
    Text.trim (a.front ++ (a.core ++ tail)) = a.core ++ Text.trimEnd tail := by
  obtain ⟨cs, hcs⟩ := a.core_eq_cons
  exact Text.trim_frame a.front_blank ⟨'-', by rw [hcs]; rfl, by decide⟩
    ⟨'-', a.getLast?_core, by decide⟩ tail

/-- One armor is a block exactly if it is proper. -/
theorem isPem_iff : isPem (.ofList a.text) ↔ a.Proper := by
  have htrim : Text.trim a.text = a.core ++ [] := by
    rw [text, trim_append, Text.trimEnd_of_blank a.back_blank]
  have hlast : ∀ c ∈ (endLine a.endLabel).getLast?, Text.isBlank c = false := by
    rw [getLast?_endLine]
    rintro _ ⟨⟩
    decide
  rw [a.isPem_iff_of_trim htrim, List.append_nil,
    Text.splitOn_of_not_mem (not_mem_endLine a.endLabel_inline), List.map_singleton,
    Text.trimEnd_eq_self hlast, isBlock_iff a.label_ne_nil, List.forall_mem_map, ne_eq,
    List.map_eq_nil_iff]
  simp only [isPayloadLine_iff]
  exact ⟨fun ⟨hlabel, hne, hlines⟩ => ⟨hlabel, hne, hlines⟩,
    fun ⟨hlabel, hne, hlines⟩ => ⟨hlabel, hne, hlines⟩⟩

/-- What follows the first armor of several begins with a line feed, and with a visible character
behind blanks. -/
theorem joinWith_text (more : List Armor) : ∃ cs,
    Text.joinWith '\n' ((a :: b :: more).map text) =
      a.front ++ (a.core ++ (a.back ++ '\n' :: (b.front ++ '-' :: cs))) := by
  obtain ⟨cs, hcs⟩ := b.core_eq_cons
  cases more with
  | nil => exact ⟨cs ++ b.back, by simp [Text.joinWith, text, hcs]⟩
  | cons c more =>
    exact ⟨cs ++ (b.back ++ '\n' :: Text.joinWith '\n' ((c :: more).map text)),
      by simp [Text.joinWith, text, hcs]⟩

/-- Several armors are no block: the line that ends the first one is no line of payload. -/
theorem not_isPem_joinWith (more : List Armor) :
    ¬ isPem (.ofList (Text.joinWith '\n' ((a :: b :: more).map text))) := by
  obtain ⟨cs, hcs⟩ := joinWith_text a b more
  have htail : Text.trimEnd (a.back ++ '\n' :: (b.front ++ '-' :: cs)) =
      a.back ++ '\n' :: (b.front ++ '-' :: Text.trimEnd cs) := by
    have hdash := Text.trimEnd_append_cons (c := '-') (a.back ++ '\n' :: b.front) (by decide) cs
    simpa using hdash
  obtain ⟨ds, hds⟩ := endLine_eq_cons a.endLabel
  obtain ⟨part, parts, -, hsplit⟩ :=
    Text.splitOn_cons_of_ne (c := '\n') (d := '-') (by decide) (ds ++ a.back)
  intro h
  rw [hcs, a.isPem_iff_of_trim ((trim_append a _).trans (by rw [htail])), ← List.append_assoc, hds,
    Text.splitOn_append, List.cons_append, hsplit, List.map_append, List.map_cons,
    List.cons_append] at h
  have hpayload := isPayloadLine_of_isBlock ?_ h
  · rw [Text.trimEnd_cons (by decide), isPayloadLine_dash] at hpayload
    cases hpayload
  · have hmore := Text.splitBy_ne_nil (· == '\n') (b.front ++ '-' :: Text.trimEnd cs)
    simpa [Text.splitOn] using fun _ => hmore

end Armor

/-- An armor is a block exactly if its labels are the same and its payload is lines of base64, and
several armors on separate lines are none. -/
theorem isPem_armor :
    (∀ a : Armor, isPem (.ofList a.text) ↔ a.Proper) ∧
      ∀ (a b : Armor) (more : List Armor),
        ¬ isPem (.ofList (Text.joinWith '\n' ((a :: b :: more).map Armor.text))) :=
  ⟨Armor.isPem_iff, Armor.not_isPem_joinWith⟩

namespace Sample

/-- An armor with a label of two words, both kinds of line ends and blanks at every line. -/
def armor : Armor where
  label := "A B".toList
  opening := ⟨"-----BEGIN A B-----".toList, [' ', '\t'], .crlf, by decide, by rintro _ ⟨⟩; decide,
    by decide, List.all_eq_true.1 (by decide)⟩
  payload := [⟨"QQ==".toList, ['\u00a0'], .lf, by decide, by rintro _ ⟨⟩; decide, by decide,
    List.all_eq_true.1 (by decide)⟩]
  endLabel := "A B".toList
  front := ['\n']
  back := [' ', '\n']
  label_ne_nil := by decide
  opening_text := by decide
  endLabel_inline := by decide
  front_blank := List.all_eq_true.1 (by decide)
  back_blank := List.all_eq_true.1 (by decide)

end Sample

theorem isPem_armor_of_sample :
    Sample.armor.text =
        "\n-----BEGIN A B----- \t\r\nQQ==\u00a0\n-----END A B----- \n".toList ∧
      isPem (.ofList Sample.armor.text) := by
  refine ⟨by decide +kernel, (isPem_armor.1 Sample.armor).2 ⟨rfl, List.cons_ne_nil _ _, ?_⟩⟩
  intro l hl
  obtain rfl := List.mem_singleton.1 hl
  exact ⟨List.cons_ne_nil _ _, List.all_iff_forall_prop.1 (by decide +kernel)⟩

end ClusterAdmission.Rules
