import FormulaCompiler.Lexeme
import FormulaCompiler.Proofs.SpanRanges

/-! Where the lexemes of a text stand in it. A text is cut from its front, so the lexemes are in
order, each one marks what it was made of, and only separators lie between them.
-/

namespace FormulaCompiler.Lexeme

/-- (Cuts position text lexemes) says how a text that begins at (position) is cut: a separator is
passed over, and anything else begins a lexeme.
-/
inductive Cuts : Nat → List Char → List (Spanned Lexeme) → Prop
  | nil {position} : Cuts position [] []
  | separator {position c rest lexemes} (separates : isSeparator c)
    (later : Cuts (position + c.utf8Size) rest lexemes)
    : Cuts position (c :: rest) lexemes
  | lexeme {position c rest lexeme taken behind lexemes} (plain : ¬isSeparator c)
    (found : first c rest = (lexeme, taken)) (parts : c :: rest = taken ++ behind)
    (later : Cuts (position + byteLength taken) behind lexemes)
    : Cuts position (c :: rest)
        (⟨lexeme, .ofLength position (byteLength taken)⟩ :: lexemes)

theorem cuts_scanFrom (position : Nat) (text : List Char)
    : Cuts position text (scanFrom position text) := by
  fun_induction scanFrom position text with
  | case1 => exact .nil
  | case2 position c rest separates ih => exact .separator separates ih
  | case3 position c rest plain lexeme taken found length ih =>
      exact .lexeme plain found (parts_of_first found) ih

namespace Cuts

variable {position : Nat} {text : List Char} {lexemes : List (Spanned Lexeme)}
  (cuts : Cuts position text lexemes)

include cuts

theorem start_lt_stop : ∀ lexeme ∈ lexemes, lexeme.span.start < lexeme.span.stop := by
  induction cuts with
  | nil => exact nofun
  | separator _ _ ih => exact ih
  | @lexeme position c rest _ taken _ _ _ found _ _ ih =>
      have some : taken ≠ [] := by
        have taking := first_ne_nil c rest
        rwa [found] at taking
      refine List.forall_mem_cons.mpr ⟨?_, ih⟩
      exact Nat.lt_add_of_pos_right (byteLength_pos some)

theorem position_le : ∀ lexeme ∈ lexemes, position ≤ lexeme.span.start := by
  induction cuts with
  | nil => exact nofun
  | separator _ _ ih =>
      exact fun lexeme listed => Nat.le_trans (Nat.le_add_right _ _) (ih lexeme listed)
  | lexeme _ _ _ _ ih =>
      refine List.forall_mem_cons.mpr ⟨Nat.le_refl _, ?_⟩
      exact fun lexeme listed => Nat.le_trans (Nat.le_add_right _ _) (ih lexeme listed)

/-- Each lexeme ends before the next one starts. -/
theorem pairwise : lexemes.Pairwise fun first second => first.span.stop ≤ second.span.start := by
  induction cuts with
  | nil => exact .nil
  | separator _ _ ih => exact ih
  | lexeme _ _ _ later ih => exact .cons later.position_le ih

/-- What a lexeme was made of stands in the text where the span of the lexeme says. -/
theorem exists_taken {lexeme : Spanned Lexeme} (listed : lexeme ∈ lexemes)
    : ∃ before c rest taken behind,
        text = before ++ (taken ++ behind)
        ∧ ¬isSeparator c
        ∧ first c rest = (lexeme.content, taken)
        ∧ lexeme.span = .ofLength (position + byteLength before) (byteLength taken) := by
  induction cuts with
  | nil => cases listed
  | @separator _ separator _ _ _ _ ih =>
      obtain ⟨before, c, rest, taken, behind, rfl, plain, found, span⟩ := ih listed
      refine ⟨separator :: before, c, rest, taken, behind, rfl, plain, found, ?_⟩
      rw [span, byteLength_cons, Nat.add_assoc]
  | @lexeme _ c rest _ taken behind _ plain found parts _ ih =>
      rcases List.mem_cons.mp listed with rfl | later
      · exact ⟨[], c, rest, taken, behind, parts, plain, found, rfl⟩
      · obtain ⟨before, d, more, other, rear, rfl, apart, also, span⟩ := ih later
        refine ⟨taken ++ before, d, more, other, rear, ?_, apart, also, ?_⟩
        · rw [parts, List.append_assoc]
        · rw [span, byteLength_append, Nat.add_assoc]

/-- A byte of the text belongs to a lexeme or is a separator. -/
theorem covers {index : Nat} (lower : position ≤ index)
    (upper : index < position + byteLength text)
    : (∃ lexeme ∈ lexemes, lexeme.span.start ≤ index ∧ index < lexeme.span.stop)
      ∨ ∃ before c behind,
          text = before ++ c :: behind ∧ isSeparator c ∧ index = position + byteLength before := by
  induction cuts with
  | nil =>
      rw [byteLength_nil] at upper
      omega
  | @separator position c rest lexemes separates _ ih =>
      have single : c.utf8Size = 1 := by
        rcases isSeparator_iff.mp separates with rfl | rfl | rfl | rfl <;> rfl
      rcases Nat.eq_or_lt_of_le lower with rfl | beyond
      · exact .inr ⟨[], c, rest, rfl, separates, rfl⟩
      · rw [byteLength_cons] at upper
        rcases ih (by omega) (by omega) with covered | ⟨before, d, behind, rfl, also, same⟩
        · exact .inl covered
        · refine .inr ⟨c :: before, d, behind, rfl, also, ?_⟩
          rw [same, byteLength_cons, Nat.add_assoc]
  | @lexeme position c rest lexeme taken behind lexemes _ found parts _ ih =>
      by_cases own : index < position + byteLength taken
      · exact .inl ⟨_, List.mem_cons_self, lower, own⟩
      · rw [parts, byteLength_append] at upper
        rcases ih (by omega) (by omega) with ⟨other, listed, covered⟩ | separated
        · exact .inl ⟨other, List.mem_cons_of_mem _ listed, covered⟩
        · obtain ⟨before, d, rear, rfl, also, same⟩ := separated
          refine .inr ⟨taken ++ before, d, rear, ?_, also, ?_⟩
          · rw [parts, List.append_assoc]
          · rw [same, byteLength_append, Nat.add_assoc]

end Cuts

end FormulaCompiler.Lexeme
