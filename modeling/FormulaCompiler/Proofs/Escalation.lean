import Mathlib.Data.List.Forall2
import FormulaCompiler.Proofs.Driver
import FormulaCompiler.Proofs.Reports

/-! Warnings as errors. The option raises the reports of a formula and changes nothing else: what
was refused is refused with the same reports, what had no warnings is accepted as before, and what
had some is refused with them.
-/

namespace FormulaCompiler

/-- Whether a report is raised to another one: an error about the same problem at the same place,
which is marked as escalated exactly if it was a warning before.
-/
structure Diagnostic.RaisedTo (report raised : Diagnostic) : Prop where
  severity : raised.severity = .error
  problem : raised.problem = report.problem
  span : raised.span = report.span
  escalated : raised.escalated ↔ report.severity = .warning

/-- How a result for which warnings are no errors turns out where they are: it stays (alike) if
there are no warnings, and otherwise its warnings, or the reports of its refusal, are raised one by
one.
-/
inductive Escalates {α : Type} (warnings : α → List Diagnostic) (alike : α → α → Prop)
    : Except (List Diagnostic) α → Except (List Diagnostic) α → Prop
  | quiet {value other} (before : warnings value = []) (after : warnings other = [])
      (same : alike value other)
      : Escalates warnings alike (.ok value) (.ok other)
  | raised {value reports} (some : warnings value ≠ [])
      (raised : List.Forall₂ Diagnostic.RaisedTo (warnings value) reports)
      : Escalates warnings alike (.ok value) (.error reports)
  | refused {found reports} (raised : List.Forall₂ Diagnostic.RaisedTo found reports)
      : Escalates warnings alike (.error found) (.error reports)

/-- Whether a result and its reports fit: a success has plain warnings, and a failure an error. -/
def Sound {α : Type} (warnings : α → List Diagnostic) : Except (List Diagnostic) α → Prop
  | .ok value =>
    ∀ report ∈ warnings value, report.severity = .warning ∧ report.escalated = false
  | .error reports => ∃ report ∈ reports, report.severity = .error

namespace Diagnostic

theorem raisedTo_escalate {report : Diagnostic} (plain : report.escalated = false)
    : report.RaisedTo report.escalate := by
  cases severe : report.problem.severity <;>
    constructor <;> simp [escalate, isError, severity, plain, severe]

theorem forall₂_raisedTo {reports : List Diagnostic}
    (plain : ∀ report ∈ reports, report.escalated = false)
    : List.Forall₂ RaisedTo reports (reports.map escalate) := by
  simpa [List.forall₂_map_right_iff, List.forall₂_same] using
    fun report member => raisedTo_escalate (plain report member)

theorem hasErrors_iff {reports : List Diagnostic}
    : hasErrors reports ↔ ∃ report ∈ reports, report.severity = .error := by
  simp [hasErrors, isError]

theorem warning_of_noErrors {reports : List Diagnostic} (clean : ¬hasErrors reports)
    : ∀ report ∈ reports, report.severity = .warning ∧ report.escalated = false := by
  intro report member
  have mild : report.severity ≠ .error :=
    fun severe => clean (hasErrors_iff.mpr ⟨report, member, severe⟩)
  cases marked : report.escalated with
  | true => simp [severity, marked] at mild
  | false =>
      refine ⟨?_, rfl⟩
      cases severe : report.severity with
      | warning => rfl
      | error => exact absurd severe mild

end Diagnostic

-----------------------------------------------------------------------------------------
-- The analysis of a unit
-----------------------------------------------------------------------------------------

namespace CodeUnit

theorem analyze_sound (unit : CodeUnit) (options : CompileOptions)
    : Sound Analysis.warnings (unit.analyze options) := by
  by_cases errors : Diagnostic.hasErrors (unit.reports options)
  · rw [analyze_of_errors errors]
    exact Diagnostic.hasErrors_iff.mp errors
  · obtain ⟨expr, -, accepted⟩ := analyze_of_noErrors errors
    rw [accepted]
    exact Diagnostic.warning_of_noErrors errors

theorem analyze_escalates (unit : CodeUnit) (options : CompileOptions)
    : Escalates Analysis.warnings Eq (unit.analyze { options with warningsAsErrors := false })
        (unit.analyze { options with warningsAsErrors := true }) := by
  have raised : List.Forall₂ Diagnostic.RaisedTo unit.check.2
      (unit.reports { options with warningsAsErrors := true }) :=
    Diagnostic.forall₂_raisedTo fun _ listed => (original_of_mem_check listed).plain
  by_cases errors : Diagnostic.hasErrors unit.check.2
  · rw [analyze_of_errors (hasErrors_reports_of_check errors),
      analyze_of_errors (hasErrors_reports_of_check errors)]
    exact .refused raised
  · have clean
        : ¬Diagnostic.hasErrors (unit.reports { options with warningsAsErrors := false }) :=
      errors
    obtain ⟨expr, checked, accepted⟩ := analyze_of_noErrors clean
    by_cases quiet : unit.check.2 = []
    · have none : unit.reports { options with warningsAsErrors := true } = [] :=
        congrArg (List.map Diagnostic.escalate) quiet
      have clean
          : ¬Diagnostic.hasErrors (unit.reports { options with warningsAsErrors := true }) := by
        simp [none, Diagnostic.hasErrors]
      obtain ⟨other, checkedAgain, strict⟩ := analyze_of_noErrors clean
      obtain rfl := Option.some.inj (checked.symm.trans checkedAgain)
      rw [accepted, strict]
      refine .quiet quiet none ?_
      rw [none]
      exact congrArg _ quiet
    · have errors
          : Diagnostic.hasErrors (unit.reports { options with warningsAsErrors := true }) :=
        (Diagnostic.hasErrors_map_escalate _).mpr quiet
      rw [accepted, analyze_of_errors errors]
      exact .raised quiet raised

end CodeUnit

-----------------------------------------------------------------------------------------
-- Whole compilations
-----------------------------------------------------------------------------------------

namespace Compiler

section

variable {left right : Except (List Diagnostic) Analysis}
  {made remade : Except (List Diagnostic) CompiledFunction}

theorem Delivers.sound (delivers : Delivers left made) (sound : Sound Analysis.warnings left)
    : Sound CompiledFunction.warnings made := by
  cases delivers with
  | refused reports => exact sound
  | compiled warnings invoked =>
      rw [Sound, warnings]
      exact sound

theorem Delivers.escalates (delivers : Delivers left made) (redelivers : Delivers right remade)
    (escalates : Escalates Analysis.warnings Eq left right)
    : Escalates CompiledFunction.warnings
        (fun first second => ∀ x, first.invoke x = second.invoke x) made remade := by
  cases escalates with
  | quiet before after same =>
      cases delivers with
      | compiled warnings invoked =>
          cases redelivers with
          | compiled rewarnings reinvoked =>
              refine .quiet (warnings.trans before) (rewarnings.trans after) fun x => ?_
              rw [invoked, reinvoked, same]
  | raised some raised =>
      cases delivers with
      | compiled warnings invoked =>
          cases redelivers
          rw [← warnings] at some raised
          exact .raised some raised
  | refused raised =>
      cases delivers
      cases redelivers
      exact .refused raised

end

theorem compile_sound (compiler : Compiler) (formula : String) (process : Process)
    : Sound CompiledFunction.warnings (compiler.compile formula process).1 := by
  have sound := (compiler.unitOf formula process).analyze_sound compiler.options
  by_cases runs : compiler.backend = .missing
  · cases analyzed : (compiler.unitOf formula process).analyze compiler.options with
    | error reports =>
        rw [analyzed] at sound
        rw [compile_of_refused analyzed]
        exact sound
    | ok analysis =>
        rw [compile_of_missing runs analyzed]
        exact ⟨_, List.mem_concat_self, rfl⟩
  · exact (compile_delivers compiler runs formula process).sound sound

/-- The two units only differ in their numbers, which no analysis looks at. -/
theorem compile_escalates {backend : Backend} (runs : backend ≠ .missing)
    (vocabulary : Vocabulary) (options : CompileOptions) (formula : String)
    (first second : Process)
    : Escalates CompiledFunction.warnings (fun left right => ∀ x, left.invoke x = right.invoke x)
        (compile ⟨vocabulary, backend, { options with warningsAsErrors := false }⟩ formula
          first).1
        (compile ⟨vocabulary, backend, { options with warningsAsErrors := true }⟩ formula
          second).1 :=
  (compile_delivers _ runs formula first).escalates (compile_delivers _ runs formula second)
    (CodeUnit.analyze_escalates _ options)

/-- All reports of a unit that is compiled are warnings, and its function has them. -/
theorem reports_of_compile {compiler : Compiler} {formula : String} {process : Process}
    {function : CompiledFunction} (compiled : (compiler.compile formula process).1 = .ok function)
    : Diagnostic.hasErrors ((compiler.unitOf formula process).reports compiler.options) = false
      ∧ function.warnings = (compiler.unitOf formula process).reports compiler.options := by
  by_cases errors
    : Diagnostic.hasErrors ((compiler.unitOf formula process).reports compiler.options)
  · rw [compile_of_refused (CodeUnit.analyze_of_errors errors)] at compiled
    cases compiled
  · obtain ⟨expr, -, accepted⟩ := CodeUnit.analyze_of_noErrors errors
    refine ⟨by simpa using errors, ?_⟩
    by_cases runs : compiler.backend = .missing
    · rw [compile_of_missing runs accepted] at compiled
      cases compiled
    · obtain ⟨other, made, warnings, -⟩ := compile_of_accepted runs accepted
      obtain rfl := Except.ok.inj (made.symm.trans compiled)
      exact warnings

/-- Treating warnings as errors raises reports and does nothing else, in the analysis of a unit and
in a compilation by a backend that makes something to run. Under all options a success has only
plain warnings and a failure has an error, and nothing is ever compiled that has no entry point.
Witness: reports are plain up to the one place where they are raised, and they alone decide there.
-/
theorem warningsAsErrors_escalates (options : CompileOptions)
    : (∀ unit : CodeUnit,
        Escalates Analysis.warnings Eq (unit.analyze { options with warningsAsErrors := false })
          (unit.analyze { options with warningsAsErrors := true })
        ∧ Sound Analysis.warnings (unit.analyze options))
      ∧ (∀ vocabulary backend formula process,
        let compiler : Compiler := ⟨vocabulary, backend, options⟩
        Sound CompiledFunction.warnings (compiler.compile formula process).1
        ∧ ∀ function, (compiler.compile formula process).1 = .ok function
          → Diagnostic.hasErrors ((compiler.unitOf formula process).reports options) = false
            ∧ function.warnings = (compiler.unitOf formula process).reports options)
      ∧ (∀ vocabulary formula process,
        let compiler : Compiler := ⟨vocabulary, .missing, options⟩
        let unit := compiler.unitOf formula process
        (compiler.compile formula process).1
          = .error (match unit.analyze options with
            | .error reports => reports
            | .ok analysis =>
              analysis.warnings ++ [{
                problem := .missingEntryPoint unit.symbol
                span := ⟨0, byteLength unit.body.toList⟩
                escalated := false }]))
      ∧ ∀ vocabulary backend formula first second, backend ≠ .missing
        → Escalates CompiledFunction.warnings
            (fun left right => ∀ x, left.invoke x = right.invoke x)
            (compile ⟨vocabulary, backend, { options with warningsAsErrors := false }⟩ formula
              first).1
            (compile ⟨vocabulary, backend, { options with warningsAsErrors := true }⟩ formula
              second).1 := by
  refine ⟨fun unit => ⟨unit.analyze_escalates options, unit.analyze_sound options⟩, ?_, ?_, ?_⟩
  · intro vocabulary backend formula process
    exact ⟨compile_sound _ formula process, fun function => reports_of_compile⟩
  · intro vocabulary formula process compiler unit
    cases analyzed : unit.analyze options with
    | error reports => exact compile_of_refused analyzed
    | ok analysis => exact compile_of_missing rfl analyzed
  · intro vocabulary backend formula first second runs
    exact compile_escalates runs vocabulary options formula first second

/-- A division by zero is compiled with a warning, or refused with the same warning as an error. -/
theorem escalates_division_by_zero
    : Backend.native ≠ .missing
      ∧ ∃ function reports,
          (compile ⟨.standard, .native, { warningsAsErrors := false }⟩ "x / 0" {}).1 = .ok function
          ∧ (compile ⟨.standard, .native, { warningsAsErrors := true }⟩ "x / 0" {}).1
            = .error reports
          ∧ function.warnings = [{ problem := .zeroDivisor, span := ⟨2, 3⟩ }]
          ∧ List.Forall₂ Diagnostic.RaisedTo function.warnings reports := by
  obtain ⟨-, compiles, -, escalates⟩ := warningsAsErrors_escalates { warningsAsErrors := false }
  have runs : Backend.native ≠ .missing := nofun
  have escalated := escalates .standard .native "x / 0" {} {} runs
  have found
      : (unitOf ⟨.standard, .native, { warningsAsErrors := false }⟩ "x / 0" {}).reports
          { warningsAsErrors := false }
        = [{ problem := .zeroDivisor, span := ⟨2, 3⟩ }] := by
    decide +kernel
  obtain ⟨expr, -, accepted⟩ := CodeUnit.analyze_of_noErrors (by rw [found]; decide)
  obtain ⟨function, compiled, -, -⟩ := compile_of_accepted runs accepted
  obtain ⟨-, warnings⟩ := (compiles .standard .native "x / 0" {}).2 function compiled
  rw [found] at warnings
  rw [compiled] at escalated
  generalize (compile ⟨.standard, .native, { warningsAsErrors := true }⟩ "x / 0" {}).1 = result
    at escalated ⊢
  cases escalated with
  | quiet before after same => simp [warnings] at before
  | raised some raised => exact ⟨runs, function, _, compiled, rfl, warnings, raised⟩

end Compiler

end FormulaCompiler
