import FormulaCompiler.Proofs.BlamedNames
import FormulaCompiler.Proofs.Driver
import FormulaCompiler.Proofs.Lexing.Spellings
import FormulaCompiler.Proofs.Origins
import FormulaCompiler.Proofs.ShuntingYard.Blame
import FormulaCompiler.Proofs.SingleExpression

/-! The spans of reports are ranges of the body they are about. A report about a name marks exactly
that name, or the call of it from its name to the parenthesis that closes it.
-/

namespace FormulaCompiler

open Grammar ShuntingYard

-----------------------------------------------------------------------------------------
-- What is read from a text
-----------------------------------------------------------------------------------------

section

variable {text : String}

/-- What two tokens of a text mark is marked together with what stands between them. -/
theorem exists_marks_through {first last : Spanned Token} {front rear : String}
    (ordered : [first, last].Sublist (tokenize text).tokens)
    (marks : first.span.Marks text front) (also : last.span.Marks text rear)
    : ∃ middle, (first.span.through last.span).Marks text (front ++ middle ++ rear) := by
  have before := List.rel_of_pairwise_cons ((Lexeme.tokens_ordered text).sublist ordered)
    (List.mem_singleton_self last)
  exact marks.through also before.2

theorem isRangeOf_through {first last : Spanned Token}
    (ordered : [first, last].Sublist (tokenize text).tokens)
    : (first.span.through last.span).IsRangeOf text := by
  obtain ⟨front, marks⟩ := Lexeme.exists_marks (ordered.subset List.mem_cons_self)
  obtain ⟨rear, also⟩ :=
    Lexeme.exists_marks (ordered.subset (List.mem_cons_of_mem _ List.mem_cons_self))
  obtain ⟨middle, whole⟩ := exists_marks_through ordered marks also
  exact whole.isRangeOf

theorem isRangeOf_of_madeOf {opening : Opening} (made : opening.MadeOf (tokenize text).tokens)
    : opening.span.IsRangeOf text := by
  cases made with
  | group listed => exact Lexeme.isRangeOf_of_mem_tokens listed
  | call listed => exact isRangeOf_through listed

/-- A call is read between its name and the parenthesis that closes it. -/
theorem sublist_of_call {path : String} {name opened closed : Span}
    {inner rest tokens : List (Spanned Token)}
    (within
      : ⟨.name path, name⟩ :: ⟨.openParen, opened⟩ :: (inner ++ ⟨.closeParen, closed⟩ :: rest)
        <:+ tokens)
    : [⟨.name path, name⟩, ⟨.closeParen, closed⟩].Sublist tokens := by
  refine List.Sublist.trans ?_ within.sublist
  refine List.Sublist.cons_cons _ (List.Sublist.cons _ ?_)
  exact List.singleton_sublist.mpr (List.mem_append_right inner List.mem_cons_self)

theorem isRangeOf_of_origin {item : PostfixItem} {start : List (Spanned Token)}
    (within : start <:+ (tokenize text).tokens) (origin : Origin item start)
    : item.span.IsRangeOf text := by
  cases origin with
  | number | name _ | negate | operator =>
      exact Lexeme.isRangeOf_of_mem_tokens (within.subset List.mem_cons_self)
  | call closes => exact isRangeOf_through (sublist_of_call within)

/-- A report about the order of tokens has the span of a token, of an opening or of the end. -/
theorem isRangeOf_of_postfixOrder {report : Diagnostic}
    (refused : postfixOrder (tokenize text).tokens text.utf8ByteSize = .error report)
    : report.span.IsRangeOf text := by
  rcases refused_cases refused with
    ⟨before, token, behind, reached, split, joint, ran, blamed⟩ | ⟨reached, ran, ended⟩
  · rw [(refusal_of_initial ran blamed).place]
    refine Lexeme.isRangeOf_of_mem_tokens ?_
    rw [split]
    exact List.mem_append_right before List.mem_cons_self
  · cases refusal_of_finish ended with
    | missingOperand _ => exact (Span.marks_end text).isRangeOf
    | @unclosed innermost outer _ opened =>
        have listed : innermost ∈ openingsFrom [] (tokenize text).tokens := by
          rw [show [] = openingsOf State.initial.pending from rfl, openingsOf_run ran, opened]
          exact List.mem_cons_self
        rcases madeOf_of_mem_openingsFrom listed with before | made
        · cases before
        · exact isRangeOf_of_madeOf made

end

-----------------------------------------------------------------------------------------
-- Reports about names
-----------------------------------------------------------------------------------------

/-- A problem with a name has a span that marks the name in the text. Where the name is called, it
marks the text from the name to the parenthesis that closes the call.
-/
inductive MarksName (text : String) (problem : Problem) : Span → Prop
  | value {path span before behind} (blames : problem.Blames path)
    (parts : (tokenize text).tokens = before ++ ⟨.name path, span⟩ :: behind)
    (alone : ∀ opened rest, behind ≠ ⟨.openParen, opened⟩ :: rest)
    (marks : span.Marks text path)
    : MarksName text problem span
  | call {path name opened inner closed before behind args} (blames : problem.Blames path)
    (parts
      : (tokenize text).tokens
        = before
          ++ ⟨.name path, name⟩ :: ⟨.openParen, opened⟩
            :: (inner ++ ⟨.closeParen, closed⟩ :: behind))
    (closes
      : Reads .atom
          (⟨.name path, name⟩ :: ⟨.openParen, opened⟩ :: (inner ++ ⟨.closeParen, closed⟩ :: behind))
          (.call path args (name.through closed)) behind)
    (starts : name.Marks text path) (ends : closed.Marks text ")")
    (marks : ∃ middle, (name.through closed).Marks text (path ++ middle ++ ")"))
    : MarksName text problem (name.through closed)

theorem marksName_of_origin {text : String} {problem : Problem} {item : PostfixItem}
    {start : List (Spanned Token)} {path : String} (within : start <:+ (tokenize text).tokens)
    (origin : Origin item start) (named : item.content.path? = some path)
    (blames : problem.Blames path)
    : MarksName text problem item.span := by
  obtain ⟨before, parts⟩ := within
  cases origin with
  | number | negate | operator => cases named
  | name alone =>
      cases named
      have listed := parts ▸ List.mem_append_right before List.mem_cons_self
      exact .value blames parts.symm alone (Lexeme.marks_spelling listed rfl)
  | call closes =>
      cases named
      have ordered := sublist_of_call ⟨before, parts⟩
      have starts := Lexeme.marks_spelling (ordered.subset List.mem_cons_self) rfl
      have ends := Lexeme.marks_spelling
        (ordered.subset (List.mem_cons_of_mem _ List.mem_cons_self)) rfl
      exact .call blames parts.symm closes starts ends (exists_marks_through ordered starts ends)

-----------------------------------------------------------------------------------------
-- The reports of a unit
-----------------------------------------------------------------------------------------

namespace CodeUnit

variable {unit : CodeUnit} {report : Diagnostic}

/-- What the checks of a unit report is found by cutting, by the grammar or by binding. -/
inductive Finds (unit : CodeUnit) (report : Diagnostic) : Prop
  | cutting (listed : report ∈ (tokenize unit.body).diagnostics)
  | order (refused
      : postfixOrder (tokenize unit.body).tokens unit.body.utf8ByteSize = .error report)
  | binding {formula} (reads : Reads .expr (tokenize unit.body).tokens formula [])
    (listed : report ∈ (unit.scope.bind formula.postorder).2)

theorem finds_of_mem_check (listed : report ∈ unit.check.2) : unit.Finds report := by
  unfold check at listed
  rw [← utf8ByteSize_eq] at listed
  dsimp only at listed
  split at listed
  · exact .cutting listed
  · split at listed
    · rename_i refused
      rcases List.mem_append.mp listed with cut | own
      · exact .cutting cut
      · rw [List.mem_singleton.mp own]
        exact .order refused
    · rename_i items accepted
      obtain ⟨formula, reads, rfl⟩ := reads_of_postfixOrder accepted
      rw [unit.scope.bind_postorder formula] at listed
      rcases List.mem_append.mp listed with cut | bound
      · exact .cutting cut
      · exact .binding reads (by rwa [unit.scope.bind_postorder formula])

/-- A report of binding is about an item that was read from the body. -/
theorem exists_origin {formula : Formula}
    (reads : Reads .expr (tokenize unit.body).tokens formula [])
    (listed : report ∈ (unit.scope.bind formula.postorder).2)
    : ∃ item start,
        start <:+ (tokenize unit.body).tokens
        ∧ Origin item start
        ∧ report.span = item.span
        ∧ (report.problem = .zeroDivisor
          ∨ ∃ path ∈ item.content.path?, report.problem.Blames path) := by
  obtain ⟨item, member, same, about⟩ := Scope.exists_item_of_mem_bindOnto listed
  obtain ⟨start, within, origin⟩ := reads.traced item member
  exact ⟨item, start, within, origin, same, about⟩

theorem code_of_cutting {text : String} (listed : report ∈ (tokenize text).diagnostics)
    : report.problem.code = "CF0001"
      ∨ report.problem.code = "CF0002"
      ∨ report.problem.code = "CF0201" := by
  have codes := Lexeme.code_of_mem_diagnostics listed
  split at codes
  · rcases List.mem_cons.mp codes with same | later
    · exact .inl same
    · exact .inr (.inl (List.mem_singleton.mp later))
  · exact .inr (.inr codes)

namespace Finds

variable (finds : unit.Finds report)

include finds

theorem isRangeOf : report.span.IsRangeOf unit.body := by
  cases finds with
  | cutting listed =>
      obtain ⟨lexeme, member, reported⟩ := List.mem_filterMap.mp listed
      obtain ⟨problem, -, rfl⟩ := Option.map_eq_some_iff.mp reported
      exact Lexeme.isRangeOf_of_mem_scan member
  | order refused => exact isRangeOf_of_postfixOrder refused
  | binding reads listed =>
      obtain ⟨item, start, within, origin, same, -⟩ := exists_origin reads listed
      exact same ▸ isRangeOf_of_origin within origin

theorem marksName (named : report.problem.code ∈ Problem.nameCodes)
    : MarksName unit.body report.problem report.span := by
  cases finds with
  | cutting listed =>
      rcases code_of_cutting listed with same | same | same <;> rw [same] at named <;>
        exact absurd named (by decide)
  | order refused =>
      have fatal := fatal_of_postfixOrder refused
      exact absurd named (Problem.code_not_mem_nameCodes fatal.kind nofun)
  | binding reads listed =>
      obtain ⟨item, start, within, origin, same, division | ⟨path, known, blames⟩⟩ :=
        exists_origin reads listed
      · rw [division] at named
        exact absurd named (by decide)
      · exact same ▸ marksName_of_origin within origin known blames

/-- The checks find nothing that is wrong with an artifact. -/
theorem code_ne : report.problem.code ≠ "CF0900" := by
  cases finds with
  | cutting listed => rcases code_of_cutting listed with same | same | same <;> rw [same] <;> decide
  | order refused =>
      exact Problem.code_ne_of_kind? (fatal_of_postfixOrder refused).kind nofun
  | binding reads listed =>
      obtain ⟨item, start, -, -, -, division | ⟨path, -, blames⟩⟩ := exists_origin reads listed
      · rw [division]
        decide
      · exact Problem.code_ne_of_kind? blames.kind? nofun

end Finds

end CodeUnit

-----------------------------------------------------------------------------------------
-- The reports of an analysis
-----------------------------------------------------------------------------------------

/-- The reports of an analysis, whether it accepts its unit or not. -/
def Analysis.reportsOf : Except (List Diagnostic) Analysis → List Diagnostic
  | .ok analysis => analysis.warnings
  | .error found => found

namespace CodeUnit

variable {unit : CodeUnit} {options : CompileOptions} {report : Diagnostic}

/-- Raising reports leaves them where they are, and changes no problem. -/
theorem exists_found_of_mem_reportsOf (listed : report ∈ Analysis.reportsOf (unit.analyze options))
    : ∃ found, unit.Finds found ∧ report.problem = found.problem ∧ report.span = found.span := by
  have same : Analysis.reportsOf (unit.analyze options) = unit.reports options := by
    have all := unit.analyze_reports options
    split at all <;> rename_i analyzed <;> rw [analyzed] <;> exact all
  rw [same, reports] at listed
  split at listed
  · obtain ⟨found, member, rfl⟩ := List.mem_map.mp listed
    exact ⟨found, finds_of_mem_check member, found.problem_escalate, found.span_escalate⟩
  · exact ⟨report, finds_of_mem_check listed, rfl, rfl⟩

theorem code_ne_of_mem_reportsOf (listed : report ∈ Analysis.reportsOf (unit.analyze options))
    : report.problem.code ≠ "CF0900" := by
  obtain ⟨found, finds, same, -⟩ := exists_found_of_mem_reportsOf listed
  rw [same]
  exact finds.code_ne

end CodeUnit

/-- What a compiler reports of an artifact without a way in is about the whole body. -/
theorem Compiler.span_of_missingEntry {compiler : Compiler} {formula : String} {process : Process}
    {reports : List Diagnostic} (failed : (compiler.compile formula process).1 = .error reports)
    {report : Diagnostic} (listed : report ∈ reports) (isMissing : report.problem.code = "CF0900")
    : report.span
      = ⟨0, (qualify formula compiler.vocabulary compiler.options.matching).utf8ByteSize⟩ := by
  have outcome := compiler.compile_outcome formula process
  generalize compiler.compile formula process = result at outcome failed
  cases outcome with
  | refused refused =>
      cases failed
      have found : report ∈ Analysis.reportsOf
          ((compiler.unitOf formula process).analyze compiler.options) := by
        rw [refused]
        exact listed
      exact absurd isMissing (CodeUnit.code_ne_of_mem_reportsOf found)
  | @closed analysis _ accepted =>
      cases failed
      rcases List.mem_append.mp listed with warned | own
      · have found : report ∈ Analysis.reportsOf
            ((compiler.unitOf formula process).analyze compiler.options) := by
          rw [accepted]
          exact warned
        exact absurd isMissing (CodeUnit.code_ne_of_mem_reportsOf found)
      · rw [List.mem_singleton.mp own, utf8ByteSize_eq]
        rfl
  | compiled _ _ _ _ _ _ _ => cases failed

/-- Every report of an analysis marks a range of the body, between characters, and a report about a
name marks that name or the whole call of it. A formula whose artifact has no way in is reported as
a whole.
-/
theorem reports_mark_body
    : (∀ (unit : CodeUnit) (options : CompileOptions),
        ∀ report ∈ Analysis.reportsOf (unit.analyze options),
          report.span.IsRangeOf unit.body
          ∧ (report.problem.code ∈ Problem.nameCodes
            → MarksName unit.body report.problem report.span))
      ∧ ∀ (compiler : Compiler) (formula : String) (process : Process)
          (reports : List Diagnostic),
          (compiler.compile formula process).1 = .error reports
          → ∀ report ∈ reports,
              report.problem.code = "CF0900"
              → report.span
                = ⟨0, (qualify formula compiler.vocabulary compiler.options.matching).utf8ByteSize⟩
          := by
  constructor
  · intro unit options report listed
    obtain ⟨found, finds, problem, span⟩ := CodeUnit.exists_found_of_mem_reportsOf listed
    rw [problem, span]
    exact ⟨finds.isRangeOf, finds.marksName⟩
  · intro compiler formula process reports failed report listed isMissing
    exact Compiler.span_of_missingEntry failed listed isMissing

/-- An unknown name and the call of an unknown name are marked, and a formula without a way into its
artifact is marked as a whole.
-/
theorem reports_mark_name_call_body
    : let unit := CodeUnit.build 0 "y - f( 1 )" .double
      let compiler : Compiler := ⟨.standard, .missing, { warningsAsErrors := false }⟩
      Analysis.reportsOf (unit.analyze {})
        = [{ problem := .unknownName "y", span := ⟨0, 1⟩ },
          { problem := .unknownName "f", span := ⟨4, 10⟩ }]
      ∧ MarksName unit.body (.unknownName "y") ⟨0, 1⟩
      ∧ MarksName unit.body (.unknownName "f") ⟨4, 10⟩
      ∧ ∃ reports report,
          (compiler.compile "x / 0" {}).1 = .error reports
          ∧ report ∈ reports
          ∧ report.problem.code = "CF0900"
          ∧ report.span = ⟨0, 5⟩ := by
  intro unit compiler
  have found : Analysis.reportsOf (unit.analyze {})
      = [{ problem := .unknownName "y", span := ⟨0, 1⟩ },
        { problem := .unknownName "f", span := ⟨4, 10⟩ }] := by
    decide +kernel
  have first := (reports_mark_body.1 unit {} _ (by rw [found]; exact List.mem_cons_self)).2
  have second := (reports_mark_body.1 unit {} _
    (by rw [found]; exact List.mem_cons_of_mem _ List.mem_cons_self)).2
  have closed : (match (compiler.compile "x / 0" {}).1 with
      | .error reports => decide (reports.map (·.problem.code) = ["CF0202", "CF0900"])
      | .ok _ => false) = true := by
    decide +kernel
  cases failed : (compiler.compile "x / 0" {}).1 with
  | ok function =>
      rw [failed] at closed
      cases closed
  | error reports =>
      rw [failed] at closed
      have codes := of_decide_eq_true closed
      obtain ⟨report, listed, isMissing⟩ : ∃ report ∈ reports, report.problem.code = "CF0900" := by
        refine List.mem_map.mp ?_
        rw [codes]
        exact List.mem_cons_of_mem _ List.mem_cons_self
      have whole := reports_mark_body.2 compiler "x / 0" {} reports failed report listed isMissing
      have text : qualify "x / 0" .standard .tokens = "x / 0" := by decide +kernel
      exact ⟨found, first (by decide), second (by decide), reports, report, rfl, listed, isMissing,
        whole.trans (congrArg (fun body : String => Span.mk 0 body.utf8ByteSize) text)⟩

end FormulaCompiler
