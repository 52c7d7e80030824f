import Mathlib.Data.List.Basic
import FormulaCompiler.Text.Replace

/-! Replacing every occurrence of a text. Where it has only characters of one kind, no occurrence
reaches over a character of another kind. Where it has a mark in it that stands in no other place,
the occurrences are found at the marks.
-/

namespace FormulaCompiler

section

variable {pattern replacement : List Char}

theorem replaceFrom_skip (skip : Nat) (text : List Char)
    : replaceFrom pattern replacement skip text
      = replaceFrom pattern replacement 0 (text.drop skip) := by
  induction text generalizing skip with
  | nil => rw [List.drop_nil, replaceFrom, replaceFrom]
  | cons c rest ih =>
      cases skip with
      | zero => rfl
      | succ skip => rw [replaceFrom, ih, List.drop_succ_cons]

theorem replaceAll_occurrence (some : pattern ≠ []) (rest : List Char)
    : replaceAll pattern replacement (pattern ++ rest)
      = replacement ++ replaceAll pattern replacement rest := by
  obtain ⟨c, more, rfl⟩ := List.exists_cons_of_ne_nil some
  have occurs : (c :: more).isPrefixOf (c :: (more ++ rest)) := by simp
  rw [replaceAll, replaceAll, List.cons_append, replaceFrom, if_pos occurs, replaceFrom_skip]
  simp

theorem replaceAll_nil (some : pattern ≠ []) : replaceAll pattern replacement [] = [] := by
  obtain ⟨c, more, rfl⟩ := List.exists_cons_of_ne_nil some
  rfl

theorem replaceAll_cons {c : Char} {rest : List Char} (absent : ¬pattern <+: c :: rest)
    : replaceAll pattern replacement (c :: rest) = c :: replaceAll pattern replacement rest := by
  cases pattern with
  | nil => exact absurd List.nil_prefix absent
  | cons d more =>
      rw [replaceAll, replaceAll, replaceFrom, if_neg]
      rwa [List.isPrefixOf_iff_prefix]

end

-----------------------------------------------------------------------------------------
-- Patterns of one kind of characters
-----------------------------------------------------------------------------------------

section

variable {pattern replacement front rest : List Char} {inside : Char → Prop}
  (all : ∀ c ∈ pattern, inside c) (ends : ∀ c, rest.head? = some c → ¬inside c)

include all ends

/-- No occurrence reaches over a character of another kind. -/
theorem isPrefix_of_ends (begins : pattern <+: front ++ rest) : pattern <+: front := by
  induction front generalizing pattern with
  | nil =>
      obtain ⟨behind, rfl⟩ := begins
      cases pattern with
      | nil => exact List.nil_prefix
      | cons c more => exact absurd (all c List.mem_cons_self) (ends c rfl)
  | cons c front ih =>
      cases pattern with
      | nil => exact List.nil_prefix
      | cons d more =>
          rw [List.forall_mem_cons] at all
          obtain ⟨rfl, later⟩ := List.cons_prefix_cons.mp begins
          exact List.cons_prefix_cons.mpr ⟨rfl, ih all.2 later⟩

/-- A text without an occurrence stays, where a character of another kind follows. -/
theorem replaceAll_absent (absent : ¬pattern <:+: front)
    : replaceAll pattern replacement (front ++ rest)
      = front ++ replaceAll pattern replacement rest := by
  induction front with
  | nil => rfl
  | cons c front ih =>
      have elsewhere : ¬pattern <+: c :: (front ++ rest) :=
        fun begins => absent (isPrefix_of_ends all ends begins).isInfix
      have later : ¬pattern <:+: front := fun occurs => absent (List.infix_cons occurs)
      rw [List.cons_append, replaceAll_cons elsewhere, ih later]
      rfl

end

-----------------------------------------------------------------------------------------
-- Patterns with a mark
-----------------------------------------------------------------------------------------

section

variable {mark : Char} {key tail replacement : List Char}

theorem takeWhile_mark {front : List Char} (unmarked : mark ∉ front) (rest : List Char)
    : (front ++ mark :: rest).takeWhile (· ≠ mark) = front := by
  have all : ∀ c ∈ front, decide (c ≠ mark) = true := fun c member =>
    decide_eq_true fun same => unmarked (same ▸ member)
  rw [List.takeWhile_append_of_pos all, List.takeWhile_cons_of_neg (by simp), List.append_nil]

/-- Where no mark stands in front of an occurrence, none begins earlier. -/
theorem eq_nil_of_isPrefix {front rest : List Char} (inKey : mark ∉ key) (inFront : mark ∉ front)
    (begins : key ++ mark :: tail <+: front ++ (key ++ mark :: rest))
    : front = [] := by
  obtain ⟨behind, same⟩ := begins
  have both : mark ∉ front ++ key := by simp [inKey, inFront]
  have marks := congrArg (List.takeWhile (· ≠ mark)) same
  rw [List.append_assoc, List.cons_append, takeWhile_mark inKey, ← List.append_assoc,
    takeWhile_mark both] at marks
  exact List.self_eq_append_left.mp marks

theorem replaceAll_unmarked {text : List Char} (unmarked : mark ∉ text)
    : replaceAll (key ++ mark :: tail) replacement text = text := by
  induction text with
  | nil => cases key <;> rfl
  | cons c rest ih =>
      have absent : ¬key ++ mark :: tail <+: c :: rest :=
        fun begins => unmarked (begins.subset (by simp))
      rw [replaceAll_cons absent, ih (List.not_mem_of_not_mem_cons unmarked)]

/-- The first mark of a text belongs to the first occurrence, by induction over what is in front. -/
theorem replaceAll_marked {front : List Char} (inKey : mark ∉ key) (inFront : mark ∉ front)
    (rest : List Char)
    : replaceAll (key ++ mark :: tail) replacement (front ++ (key ++ mark :: tail ++ rest))
      = front ++ (replacement ++ replaceAll (key ++ mark :: tail) replacement rest) := by
  induction front with
  | nil => exact replaceAll_occurrence (by simp) rest
  | cons c front ih =>
      have absent : ¬key ++ mark :: tail <+: c :: (front ++ (key ++ mark :: tail ++ rest)) := by
        intro begins
        rw [List.append_assoc key] at begins
        have empty : c :: front = [] := eq_nil_of_isPrefix inKey inFront begins
        cases empty
      rw [List.cons_append, replaceAll_cons absent, ih (List.not_mem_of_not_mem_cons inFront)]
      rfl

end

end FormulaCompiler
