import Mathlib.Data.List.Basic
import FormulaCompiler.Proofs.Lexing.Contents
import FormulaCompiler.Proofs.Lexing.Places

/-! Cutting a text accounts for each of its bytes once: it belongs to one token, or to one piece
that is reported as no token, or it is a separator.
-/

namespace FormulaCompiler

-----------------------------------------------------------------------------------------
-- Merging what was picked apart
-----------------------------------------------------------------------------------------

section

variable {α : Type} {le : α → α → Bool} {first : α} {left right : List α}

theorem merge_cons_left (least : ∀ other ∈ right, le first other = true)
    : (first :: left).merge right le = first :: left.merge right le := by
  cases right with
  | nil => simp
  | cons other rest =>
      exact List.cons_merge_cons_pos _ _ _ (least other List.mem_cons_self)

theorem merge_cons_right (least : ∀ other ∈ left, le other first = false)
    : left.merge (first :: right) le = first :: left.merge right le := by
  cases left with
  | nil => simp
  | cons other rest =>
      rw [List.cons_merge_cons, least other List.mem_cons_self]
      rfl

end

/-- What is picked from an ordered list and what is left of it are merged to the list again. -/
theorem merge_filter {α β : Type} {le : β → β → Bool} (key : α → β) (picked : α → Bool)
    {items : List α}
    (ordered
      : items.Pairwise fun first second =>
          le (key first) (key second) = true ∧ le (key second) (key first) = false)
    : ((items.filter picked).map key).merge ((items.filter fun item => !picked item).map key) le
      = items.map key := by
  induction items with
  | nil => exact List.nil_merge []
  | cons item rest ih =>
      obtain ⟨least, later⟩ := List.pairwise_cons.mp ordered
      have before {left : α → Bool}
          : ∀ other ∈ (rest.filter left).map key,
              le (key item) other = true ∧ le other (key item) = false := by
        intro other listed
        obtain ⟨source, member, rfl⟩ := List.mem_map.mp listed
        exact least source (List.mem_of_mem_filter member)
      by_cases own : picked item
      · rw [List.filter_cons_of_pos own, List.filter_cons_of_neg (by simp [own]), List.map_cons,
          merge_cons_left fun other listed => (before other listed).1, ih later, List.map_cons]
      · rw [List.filter_cons_of_neg own, List.filter_cons_of_pos (by simp [own]), List.map_cons,
          merge_cons_right fun other listed => (before other listed).2, ih later, List.map_cons]

-----------------------------------------------------------------------------------------
-- The spans of tokens and of reports
-----------------------------------------------------------------------------------------

/-- Whether a token is a number beyond the largest double. -/
def Token.isInfinite : Token → Bool
  | .number value => value.isInf
  | _ => false

theorem map_filter_eq_filterMap {α β : Type} (picked : α → Bool) (f : α → β) (items : List α)
    : (items.filter picked).map f
      = items.filterMap fun item => if picked item then some (f item) else none := by
  rw [← List.filterMap_eq_filter, List.map_filterMap]
  refine List.filterMap_congr fun item _ => ?_
  by_cases own : picked item <;> simp [Option.guard, own]

namespace Lexeme

/-- Whether a lexeme is a token. -/
def isToken (lexeme : Lexeme) : Bool :=
  lexeme.token?.isSome

theorem map_span_tokens (text : String)
    : (tokenize text).tokens.map (·.span)
      = ((scan text).filter (·.content.isToken)).map (·.span) := by
  rw [map_filter_eq_filterMap, tokenize, List.map_filterMap]
  refine List.filterMap_congr fun lexeme _ => ?_
  obtain ⟨content, span⟩ := lexeme
  cases content <;> rfl

/-- A lexeme is reported as an error exactly if it is no token. -/
theorem map_span_errors (text : String)
    : ((tokenize text).diagnostics.filter Diagnostic.isError).map (·.span)
      = ((scan text).filter fun lexeme => !lexeme.content.isToken).map (·.span) := by
  rw [map_filter_eq_filterMap, map_filter_eq_filterMap, tokenize, List.filterMap_filterMap]
  refine List.filterMap_congr fun lexeme listed => ?_
  obtain ⟨content, span⟩ := lexeme
  cases content with
  | rejected problem =>
      have severe := (isLexical_of_mem listed).severity
      simp [problem?, isToken, token?, Diagnostic.isError, Diagnostic.severity, severe]
  | accepted token written =>
      cases token with
      | number value =>
          cases infinite : value.isInf <;>
            simp [problem?, infinite, isToken, token?, Diagnostic.isError, Diagnostic.severity,
              Problem.severity]
      | _ => rfl

theorem map_span_infinite (text : String)
    : ((tokenize text).diagnostics.filter (·.problem.code = "CF0201")).map (·.span)
      = ((tokenize text).tokens.filter (·.content.isInfinite)).map (·.span) := by
  rw [map_filter_eq_filterMap, map_filter_eq_filterMap, tokenize, List.filterMap_filterMap,
    List.filterMap_filterMap]
  refine List.filterMap_congr fun lexeme listed => ?_
  obtain ⟨content, span⟩ := lexeme
  cases content with
  | rejected problem =>
      cases isLexical_of_mem listed <;> simp [problem?, token?, Problem.code]
  | accepted token written =>
      cases token with
      | number value =>
          cases infinite : value.isInf <;>
            simp [problem?, infinite, token?, Token.isInfinite, Problem.code]
      | _ => rfl

-----------------------------------------------------------------------------------------
-- The whole text
-----------------------------------------------------------------------------------------

section

variable {text : String}

theorem cuts_scan (text : String) : Cuts 0 text.toList (scan text) :=
  cuts_scanFrom 0 text.toList

theorem scan_ordered (text : String)
    : (scan text).Pairwise fun first second =>
        first.span.start < second.span.start ∧ first.span.stop ≤ second.span.start := by
  refine (cuts_scan text).pairwise.imp_of_mem fun listed _ before => ?_
  exact ⟨Nat.lt_of_lt_of_le ((cuts_scan text).start_lt_stop _ listed) before, before⟩

theorem merge_tokens_errors (text : String)
    : ((tokenize text).tokens.map (·.span)).merge
          (((tokenize text).diagnostics.filter Diagnostic.isError).map (·.span))
          (fun first second => first.start ≤ second.start)
      = (scan text).map (·.span) := by
  rw [map_span_tokens, map_span_errors]
  refine merge_filter _ _ ((scan_ordered text).imp fun before => ?_)
  exact ⟨decide_eq_true (Nat.le_of_lt before.1), decide_eq_false (Nat.not_le.mpr before.1)⟩

theorem tokens_ordered (text : String)
    : (tokenize text).tokens.Pairwise fun first second =>
        first.span.start < second.span.start ∧ first.span.stop ≤ second.span.start := by
  have spans : ((tokenize text).tokens.map (·.span)).Pairwise fun first second =>
      first.start < second.start ∧ first.stop ≤ second.start := by
    rw [map_span_tokens]
    exact List.pairwise_map.mpr ((scan_ordered text).filter _)
  exact List.pairwise_map.mp spans

theorem diagnostics_ordered (text : String)
    : (tokenize text).diagnostics.Pairwise fun first second =>
        first.span.start < second.span.start ∧ first.span.stop ≤ second.span.start := by
  refine List.pairwise_filterMap.mpr ((scan_ordered text).imp fun before => ?_)
  intro report reported other also
  obtain ⟨problem, -, rfl⟩ := Option.map_eq_some_iff.mp reported
  obtain ⟨problem', -, rfl⟩ := Option.map_eq_some_iff.mp also
  exact before

/-- A report is an error of spelling, or warns of a number. -/
theorem code_of_mem_diagnostics {report : Diagnostic}
    (listed : report ∈ (tokenize text).diagnostics)
    : if report.isError then report.problem.code ∈ ["CF0001", "CF0002"]
      else report.problem.code = "CF0201" := by
  obtain ⟨⟨content, span⟩, member, reported⟩ := List.mem_filterMap.mp listed
  obtain ⟨problem, found, rfl⟩ := Option.map_eq_some_iff.mp reported
  cases content with
  | rejected failed =>
      cases found
      cases isLexical_of_mem member with
      | malformedNumber _ => exact List.mem_cons_of_mem _ List.mem_cons_self
      | unexpectedCharacter _ | danglingSeparator => exact List.mem_cons_self
  | accepted token written =>
      cases token with
      | number value =>
          dsimp only [problem?] at found
          split at found <;> cases found
          rfl
      | _ => cases found

theorem isRangeOf_of_mem_scan {lexeme : Spanned Lexeme} (listed : lexeme ∈ scan text)
    : lexeme.span.IsRangeOf text := by
  obtain ⟨before, c, rest, taken, behind, parts, -, -, span⟩ := (cuts_scan text).exists_taken listed
  rw [Nat.zero_add] at span
  exact (Span.marks_of_toList parts span).isRangeOf

theorem covered_or_separator {index : Nat} (inside : index < text.utf8ByteSize)
    : (∃ lexeme ∈ scan text, lexeme.span.start ≤ index ∧ index < lexeme.span.stop)
      ∨ text.toByteArray[index] ∈ [0x20, 0x09, 0x0A, 0x0D] := by
  have upper : index < 0 + byteLength text.toList := by
    rwa [Nat.zero_add, ← utf8ByteSize_eq]
  rcases (cuts_scan text).covers (Nat.zero_le _) upper with covered | separated
  · exact .inl covered
  · obtain ⟨before, c, behind, parts, separates, same⟩ := separated
    rw [Nat.zero_add] at same
    subst same
    refine .inr ?_
    rcases isSeparator_iff.mp separates with rfl | rfl | rfl | rfl <;>
      simp [toByteArray_getElem_of_ascii parts]

end

/-- Cutting accounts for each byte of a text exactly once. The spans of the tokens and of the
errors, merged by their starts, are ranges of the text that are not empty and do not overlap, and a
byte outside of them is a space, a tab, a line feed or a carriage return. Tokens come in their
order, and so do reports. A report is an error of spelling, or warns of one token that is a number
beyond the largest double. Witness: a text is cut from its front, each lexeme takes some of it, and
a lexeme is either a token or an error.
-/
theorem tokenize_covers_bytes (text : String)
    : let cut := tokenize text
      let errors := cut.diagnostics.filter Diagnostic.isError
      let pieces :=
        (cut.tokens.map (·.span)).merge (errors.map (·.span))
          fun first second => first.start ≤ second.start
      (∀ piece ∈ pieces, piece.IsRangeOf text ∧ piece.start < piece.stop)
      ∧ pieces.Pairwise (fun first second => first.stop ≤ second.start)
      ∧ (∀ index, ∀ inside : index < text.utf8ByteSize,
          (∃ piece ∈ pieces, piece.start ≤ index ∧ index < piece.stop)
          ∨ text.toByteArray[index] ∈ [0x20, 0x09, 0x0A, 0x0D])
      ∧ (cut.tokens.map (·.span)).Pairwise (fun first second =>
          first.start < second.start ∧ first.stop ≤ second.start)
      ∧ (cut.diagnostics.map (·.span)).Pairwise (fun first second =>
          first.start < second.start ∧ first.stop ≤ second.start)
      ∧ (∀ report ∈ cut.diagnostics,
          if report.isError then report.problem.code ∈ ["CF0001", "CF0002"]
          else report.problem.code = "CF0201")
      ∧ (cut.diagnostics.filter (·.problem.code = "CF0201")).map (·.span)
        = (cut.tokens.filter (·.content.isInfinite)).map (·.span) := by
  intro cut errors pieces
  have same : pieces = (scan text).map (·.span) := merge_tokens_errors text
  have ordered := scan_ordered text
  rw [same]
  refine ⟨?_, ?_, ?_, ?_, ?_, ?_, map_span_infinite text⟩
  · intro piece listed
    obtain ⟨lexeme, member, rfl⟩ := List.mem_map.mp listed
    exact ⟨isRangeOf_of_mem_scan member, (cuts_scan text).start_lt_stop lexeme member⟩
  · exact List.pairwise_map.mpr (ordered.imp And.right)
  · intro index inside
    refine (covered_or_separator inside).imp_left ?_
    rintro ⟨lexeme, member, covered⟩
    exact ⟨_, List.mem_map_of_mem member, covered⟩
  · exact List.pairwise_map.mpr (tokens_ordered text)
  · exact List.pairwise_map.mpr (diagnostics_ordered text)
  · exact fun report => code_of_mem_diagnostics

/-- A sign of three bytes, a number with a letter behind it and a number that is too large: each of
them is a range of the text, and only the last one is a token.
-/
theorem tokenize_covers_stray_and_infinite
    : let cut := tokenize "€ 2x 1e999"
      cut.tokens.map (·.span) = [⟨7, 12⟩]
      ∧ cut.diagnostics.map (fun report => (report.problem.code, report.span))
        = [("CF0001", ⟨0, 3⟩), ("CF0002", ⟨4, 6⟩), ("CF0201", ⟨7, 12⟩)]
      ∧ (∀ piece ∈ ([⟨0, 3⟩, ⟨4, 6⟩, ⟨7, 12⟩] : List Span), piece.IsRangeOf "€ 2x 1e999")
      ∧ (cut.tokens.filter (·.content.isInfinite)).map (·.span) = [⟨7, 12⟩] := by
  obtain ⟨ranges, -, -, -, -, -, infinite⟩ := tokenize_covers_bytes "€ 2x 1e999"
  have token : ⟨7, 12⟩ ∈ (tokenize "€ 2x 1e999").tokens.map (·.span) := by decide +kernel
  have errors : ([⟨0, 3⟩, ⟨4, 6⟩] : List Span)
      = ((tokenize "€ 2x 1e999").diagnostics.filter Diagnostic.isError).map (·.span) := by
    decide +kernel
  refine ⟨by decide +kernel, by decide +kernel, ?_, ?_⟩
  · intro piece listed
    refine (ranges piece (List.mem_merge.mpr ?_)).1
    rcases List.mem_append.mp (show piece ∈ [⟨0, 3⟩, ⟨4, 6⟩] ++ [⟨7, 12⟩] from listed) with
      early | late
    · exact .inr (errors ▸ early)
    · exact .inl (List.mem_singleton.mp late ▸ token)
  · rw [← infinite]
    decide +kernel

end Lexeme

end FormulaCompiler
