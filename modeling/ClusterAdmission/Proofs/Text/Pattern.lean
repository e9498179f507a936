import ClusterAdmission.Proofs.Text.Split
import ClusterAdmission.Text.Pattern
import Mathlib.Computability.Language

/-!
# Languages of patterns

A pattern stands for a language, and it accepts exactly the texts of that language
(`Text.Pattern.accepts_iff`): what is left to be matched behind a character stands for the rests of
the texts that start with it.
-/

namespace ClusterAdmission.Text

open scoped Computability

namespace Pattern

variable {p q : Pattern} {s : Char → Bool} {c : Char} {cs : List Char}

/-- The texts that a pattern stands for. -/
def language : Pattern → Language Char
  | never => 0
  | empty => 1
  | one s => {cs | ∃ c, s c ∧ cs = [c]}
  | seq p q => p.language * q.language
  | either p q => p.language + q.language
  | many p => p.language∗

@[simp] theorem not_mem_never : cs ∉ never.language := Language.notMem_zero cs

@[simp] theorem mem_empty : cs ∈ empty.language ↔ cs = [] := Language.mem_one cs

@[simp] theorem mem_one : cs ∈ (one s).language ↔ ∃ c, s c ∧ cs = [c] := .rfl

@[simp] theorem mem_seq : cs ∈ (seq p q).language ↔
    ∃ front ∈ p.language, ∃ back ∈ q.language, front ++ back = cs := Language.mem_mul

@[simp] theorem mem_either :
    cs ∈ (either p q).language ↔ cs ∈ p.language ∨ cs ∈ q.language := .rfl

@[simp] theorem nil_mem_many : [] ∈ (many p).language := Language.nil_mem_kstar p.language

@[simp] theorem mem_char : cs ∈ (char c).language ↔ cs = [c] := by simp [char]

@[simp] theorem mem_optional : cs ∈ (optional p).language ↔ cs ∈ p.language ∨ cs = [] := by
  simp [optional]

/-! ## Texts by their first character -/

theorem cons_mem_seq : c :: cs ∈ (seq p q).language ↔
    ([] ∈ p.language ∧ c :: cs ∈ q.language) ∨
      ∃ front, c :: front ∈ p.language ∧ ∃ back ∈ q.language, front ++ back = cs := by
  rw [mem_seq]
  constructor
  · rintro ⟨front, hfront, back, hback, heq⟩
    rcases List.append_eq_cons_iff.1 heq with ⟨rfl, rfl⟩ | ⟨front', rfl, rfl⟩
    · exact .inl ⟨hfront, hback⟩
    · exact .inr ⟨front', hfront, back, hback, rfl⟩
  · rintro (⟨hnil, hcons⟩ | ⟨front, hfront, back, hback, rfl⟩)
    · exact ⟨[], hnil, c :: cs, hcons, rfl⟩
    · exact ⟨c :: front, hfront, back, hback, rfl⟩

theorem cons_mem_many : c :: cs ∈ (many p).language ↔
    ∃ front, c :: front ∈ p.language ∧ ∃ back ∈ (many p).language, front ++ back = cs := by
  constructor
  · intro h
    -- Empty texts add nothing, so that the first text may be taken to start with `c`.
    obtain ⟨texts, htexts, hmem⟩ := Language.mem_kstar_iff_exists_nonempty.1 h
    cases texts with
    | nil => cases htexts
    | cons text texts =>
      obtain ⟨htext, hrest⟩ := List.forall_mem_cons.1 hmem
      cases text with
      | nil => exact absurd rfl htext.2
      | cons d front =>
        obtain ⟨rfl, rfl⟩ := List.cons.inj htexts
        exact ⟨front, htext.1, texts.flatten,
          Language.join_mem_kstar fun t ht => (hrest t ht).1, rfl⟩
  · rintro ⟨front, hfront, back, ⟨texts, rfl, htexts⟩, rfl⟩
    exact ⟨(c :: front) :: texts, rfl, List.forall_mem_cons.2 ⟨hfront, htexts⟩⟩

/-! ## Acceptance -/

theorem nullable_iff : p.nullable ↔ [] ∈ p.language := by
  induction p with
  | never => simp [nullable]
  | empty => simp [nullable]
  | one s => simp [nullable]
  | seq p q ihp ihq => simp [nullable, ihp, ihq]
  | either p q ihp ihq => simp [nullable, ihp, ihq]
  | many p => simp [nullable]

@[simp] theorem mem_followedBy :
    cs ∈ (p.followedBy q).language ↔ cs ∈ (seq p q).language := by
  cases p with
  | never => simp [followedBy]
  | empty => simp [followedBy]
  | _ => rfl

@[simp] theorem mem_orElse : cs ∈ (p.orElse q).language ↔ cs ∈ (either p q).language := by
  cases p <;> cases q <;> simp [orElse]

theorem mem_after : cs ∈ (p.after c).language ↔ c :: cs ∈ p.language := by
  induction p generalizing cs with
  | never => simp [after]
  | empty => simp [after]
  | one s => by_cases hc : s c <;> simp [after, hc]
  | seq p q ihp ihq =>
    have hleft : cs ∈ ((p.after c).followedBy q).language ↔
        ∃ front, c :: front ∈ p.language ∧ ∃ back ∈ q.language, front ++ back = cs := by
      simp [ihp]
    rw [after, cons_mem_seq, ← nullable_iff]
    split
    · next hnull => rw [mem_orElse, mem_either, hleft, ihq, and_iff_right hnull, or_comm]
    · next hnull => rw [hleft, or_iff_right fun h => hnull h.1]
  | either p q ihp ihq => simp [after, ihp, ihq]
  | many p ih => simp [after, cons_mem_many, ih]

/-- A pattern accepts the texts of its language. -/
theorem accepts_iff : p.accepts cs ↔ cs ∈ p.language := by
  induction cs generalizing p with
  | nil => exact nullable_iff
  | cons c cs ih => rw [accepts, ih, mem_after]

/-! ## Repeated pieces -/

/-- A class any number of times: all characters belong to it. -/
theorem mem_many_one : cs ∈ (many (one s)).language ↔ ∀ c ∈ cs, s c := by
  induction cs with
  | nil => simp
  | cons c cs ih =>
    rw [cons_mem_many, List.forall_mem_cons, ← ih]
    constructor
    · rintro ⟨front, ⟨d, hd, heq⟩, back, hback, rfl⟩
      obtain ⟨rfl, rfl⟩ := List.cons.inj heq
      exact ⟨hd, hback⟩
    · rintro ⟨hc, hrest⟩
      exact ⟨[], ⟨c, hc, rfl⟩, cs, hrest, rfl⟩

theorem mem_many_after_char : cs ∈ (many (seq (char c) p)).language ↔
    ∃ parts : List (List Char), (∀ part ∈ parts, part ∈ p.language) ∧
      parts.flatMap (c :: ·) = cs := by
  constructor
  · rintro ⟨texts, rfl, htexts⟩
    induction texts with
    | nil => exact ⟨[], List.forall_mem_nil _, rfl⟩
    | cons text texts ih =>
      obtain ⟨htext, hrest⟩ := List.forall_mem_cons.1 htexts
      obtain ⟨front, hfront, part, hpart, rfl⟩ := mem_seq.1 htext
      obtain rfl := mem_char.1 hfront
      obtain ⟨parts, hparts, heq⟩ := ih hrest
      exact ⟨part :: parts, List.forall_mem_cons.2 ⟨hpart, hparts⟩, by simp [heq]⟩
  · rintro ⟨parts, hparts, rfl⟩
    refine ⟨parts.map (c :: ·), List.flatMap_def, List.forall_mem_map.2 fun part hpart => ?_⟩
    exact mem_seq.2 ⟨[c], mem_char.2 rfl, part, hparts part hpart, rfl⟩

/-- A pattern once or more, with a character in between that it does not match: the parts between
the occurrences of the character match it. -/
theorem mem_separated (hp : ∀ part ∈ p.language, c ∉ part) :
    cs ∈ (seq p (many (seq (char c) p))).language ↔ ∀ part ∈ splitOn c cs, part ∈ p.language := by
  rw [mem_seq]
  constructor
  · rintro ⟨part, hpart, back, hback, rfl⟩
    obtain ⟨parts, hparts, rfl⟩ := mem_many_after_char.1 hback
    have hall := List.forall_mem_cons.2 ⟨hpart, hparts⟩
    rwa [← joinWith_cons, splitOn_joinWith (List.cons_ne_nil _ _) fun q hq => hp q (hall q hq)]
  · intro h
    obtain ⟨part, parts, hsplit⟩ := List.exists_cons_of_ne_nil (splitBy_ne_nil (· == c) cs)
    rw [splitOn, hsplit] at h
    obtain ⟨hpart, hparts⟩ := List.forall_mem_cons.1 h
    refine ⟨part, hpart, _, mem_many_after_char.2 ⟨parts, hparts, rfl⟩, ?_⟩
    rw [← joinWith_cons, ← hsplit]
    exact joinWith_splitOn c cs

end Pattern

end ClusterAdmission.Text
