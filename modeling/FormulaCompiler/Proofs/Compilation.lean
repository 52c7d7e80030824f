import FormulaCompiler.Proofs.Analysis
import FormulaCompiler.Proofs.Driver
import FormulaCompiler.Proofs.Lowercase
import FormulaCompiler.Proofs.Qualification.Meaning
import FormulaCompiler.Proofs.Qualification.Tokens

/-! Compilation as a whole: which formulas are compiled, and what the compiled functions compute. -/

namespace FormulaCompiler

open Grammar Qualification

-----------------------------------------------------------------------------------------
-- The tokens of a formula before and after it is qualified
-----------------------------------------------------------------------------------------

/-- The lexemes of a formula in lower case correspond to those of the qualified formula. -/
theorem corresponds_qualify (formula : String)
    : Lexeme.Corresponds Leads (Lexeme.contents (lowercase formula).toList)
        (Lexeme.contents (qualify formula .standard .tokens).toList) := by
  have agrees := agrees Library.isIdentifier_standard (lowercase formula).toList
    fun c member => not_isUpper_of_mem_lowercase member
  unfold qualify
  rw [String.toList_ofList]
  exact agrees

/-- Qualifying a formula neither adds nor removes all errors of cutting it. -/
theorem hasErrors_qualify (formula : String)
    : Diagnostic.hasErrors (tokenize (qualify formula .standard .tokens)).diagnostics
      = Diagnostic.hasErrors (tokenize (lowercase formula)).diagnostics :=
  (corresponds_qualify formula).hasErrors_eq

theorem tokensRename_qualify {formula : String}
    (clean : Diagnostic.hasErrors (tokenize (lowercase formula)).diagnostics = false)
    : TokensRename Leads (tokenize (lowercase formula)).tokens
        (tokenize (qualify formula .standard .tokens)).tokens :=
  ((corresponds_qualify formula).allRename clean).tokens

-----------------------------------------------------------------------------------------
-- The unit of a formula
-----------------------------------------------------------------------------------------

/-- A formula whose tokens are read as this tree. -/
structure Parses (formula : String) (tree : Formula) : Prop where
  clean : Diagnostic.hasErrors (tokenize (lowercase formula)).diagnostics = false
  reads : Reads .expr (tokenize (lowercase formula)).tokens tree []

/-- The unit that a formula is compiled as. -/
def formulaUnit (formula : String) (number : Nat) (returnType : ReturnType) : CodeUnit :=
  CodeUnit.build number (qualify formula .standard .tokens) returnType

section

variable {formula : String} {number : Nat} {returnType : ReturnType}

theorem Parses.readAs {tree : Formula} (parses : Parses formula tree)
    : ∃ qualified, (formulaUnit formula number returnType).ReadAs qualified
        ∧ tree.Renames Leads qualified := by
  have tokens := tokensRename_qualify parses.clean
  obtain ⟨qualified, reads, same⟩ := parses.reads.rename_all tokens
  exact ⟨qualified, ⟨(hasErrors_qualify formula).trans parses.clean, reads⟩, same⟩

/-- A formula is read as its body is, apart from the names that stand for each other in them. -/
theorem parses_of_corresponds {renamed : String → String → Prop} {qualified : Formula}
    (corresponds
      : Lexeme.Corresponds renamed (Lexeme.contents (lowercase formula).toList)
          (Lexeme.contents (qualify formula .standard .tokens).toList))
    (readAs : (formulaUnit formula number returnType).ReadAs qualified)
    : ∃ tree, Parses formula tree ∧ tree.Renames renamed qualified := by
  have clean := corresponds.hasErrors_eq.symm.trans readAs.clean
  have tokens := (corresponds.allRename clean).tokens.reverse
  obtain ⟨tree, reads, same⟩ := readAs.reads.rename_all tokens
  exact ⟨tree, ⟨clean, reads⟩, Formula.Renames.reverse qualified tree same⟩

theorem parses_of_readAs {qualified : Formula}
    (readAs : (formulaUnit formula number returnType).ReadAs qualified)
    : ∃ tree, Parses formula tree ∧ tree.Renames Leads qualified :=
  parses_of_corresponds (corresponds_qualify formula) readAs

/-- Where warnings pass, the unit of a formula is accepted exactly if the formula is read as a tree
whose names and calls are known.
-/
theorem analyze_formulaUnit_iff (formula : String) (number : Nat) (returnType : ReturnType)
    {options : CompileOptions} (lenient : options.warningsAsErrors = false)
    : (∃ analysis, (formulaUnit formula number returnType).analyze options = .ok analysis)
      ↔ ∃ tree, Parses formula tree ∧ tree.Known := by
  rw [CodeUnit.analyze_iff lenient]
  constructor
  · rintro ⟨qualified, readAs, bound⟩
    obtain ⟨tree, parses, same⟩ := parses_of_readAs readAs
    obtain ⟨value, meaning, -⟩ := (Formula.realizes tree qualified same).of_bound bound
    exact ⟨tree, parses, (Formula.isSome_meaning?_iff tree).mp (Option.isSome_of_eq_some meaning)⟩
  · rintro ⟨tree, parses, known⟩
    obtain ⟨qualified, readAs, same⟩ := parses.readAs
    have realizes := Formula.realizes tree qualified same
    obtain ⟨value, meaning⟩ :=
      Option.isSome_iff_exists.mp ((Formula.isSome_meaning?_iff tree).mpr known)
    rw [meaning] at realizes
    exact ⟨qualified, readAs, realizes.1⟩

/-- What is accepted has the values that the tree of the formula means. -/
theorem analyze_formulaUnit_value {options : CompileOptions}
    (lenient : options.warningsAsErrors = false) {analysis : Analysis} {tree : Formula}
    (accepted : (formulaUnit formula number returnType).analyze options = .ok analysis)
    (parses : Parses formula tree)
    : analysis.returnType = returnType
      ∧ ∃ value, tree.meaning? = some value ∧ ∀ x, analysis.expr.eval x = value x := by
  obtain ⟨qualified, readAs, same⟩ := parses.readAs
  have bound := CodeUnit.bound_of_analyze lenient readAs accepted
  obtain ⟨cast, evaluated⟩ := CodeUnit.analyze_of_readAs readAs accepted
  obtain ⟨value, meaning, means⟩ := (Formula.realizes tree qualified same).of_bound bound
  exact ⟨cast, value, meaning, fun x => (evaluated x).trans (means x)⟩

end

-----------------------------------------------------------------------------------------
-- Whole compilations
-----------------------------------------------------------------------------------------

/-- A compiler for formulas with the names of the library, for which warnings are no errors. -/
def Compiler.lenient (backend : Backend) (optimize : Bool) (returnType : ReturnType) : Compiler :=
  { vocabulary := .standard
    backend
    options := { optimize, warningsAsErrors := false, returnType, matching := .tokens } }

namespace Compiler

/-- A formula is compiled exactly if cutting it reports no error, its tokens are one expression of
the grammar, and its names and calls are known. What is compiled has the values that the tree means,
after the cast. Witness: qualifying a formula keeps its tokens apart from names, the grammar
does not look at names, binding goes along the tree, and folding and the backend change no value.
-/
theorem compile_realizes_meaning (backend : Backend) (runs : backend ≠ .missing) (optimize : Bool)
    (returnType : ReturnType) (formula : String) (process : Process)
    : ((∃ function,
          ((lenient backend optimize returnType).compile formula process).1 = .ok function)
        ↔ Diagnostic.hasErrors (tokenize (lowercase formula)).diagnostics = false
          ∧ ∃ tree, Reads .expr (tokenize (lowercase formula)).tokens tree []
              ∧ tree.Known)
      ∧ ∀ function,
          ((lenient backend optimize returnType).compile formula process).1 = .ok function
          → ∀ tree, Reads .expr (tokenize (lowercase formula)).tokens tree []
            → ∃ value, tree.meaning? = some value
                ∧ ∀ x, function.invoke x = returnType.cast (value x) := by
  have conditions
      : (∃ tree, Parses formula tree ∧ tree.Known)
        ↔ Diagnostic.hasErrors (tokenize (lowercase formula)).diagnostics = false
          ∧ ∃ tree, Reads .expr (tokenize (lowercase formula)).tokens tree []
              ∧ tree.Known := by
    constructor
    · rintro ⟨tree, parses, known⟩
      exact ⟨parses.clean, tree, parses.reads, known⟩
    · rintro ⟨clean, tree, reads, known⟩
      exact ⟨tree, ⟨clean, reads⟩, known⟩
  rw [← conditions]
  have passes : (lenient backend optimize returnType).options.warningsAsErrors = false := rfl
  have accepts := analyze_formulaUnit_iff formula process.units returnType passes
  cases analyzed
    : (formulaUnit formula process.units returnType).analyze
        (lenient backend optimize returnType).options with
  | error diagnostics =>
      have failed
          : ((lenient backend optimize returnType).compile formula process).1
            = .error diagnostics :=
        compile_of_refused analyzed
      rw [failed, ← accepts, analyzed]
      exact ⟨iff_of_false nofun nofun, nofun⟩
  | ok analysis =>
      obtain ⟨function, compiled, -, invoked⟩
          : ∃ function,
              ((lenient backend optimize returnType).compile formula process).1 = .ok function
              ∧ function.warnings = analysis.warnings
              ∧ ∀ x, function.invoke x = analysis.returnType.cast (analysis.expr.eval x) :=
        compile_of_accepted runs analyzed
      rw [compiled]
      refine ⟨iff_of_true ⟨_, rfl⟩ (accepts.mp ⟨_, analyzed⟩), ?_⟩
      rintro other same tree reads
      obtain rfl := Except.ok.inj same
      obtain ⟨parsed, ⟨clean, -⟩, -⟩ := accepts.mp ⟨_, analyzed⟩
      obtain ⟨cast, value, meaning, means⟩ :=
        analyze_formulaUnit_value passes analyzed ⟨clean, reads⟩
      refine ⟨value, meaning, fun x => ?_⟩
      rw [invoked, cast, means]

theorem compile_sqrt
    : Backend.native ≠ .missing
      ∧ ∃ function,
          ((lenient .native true .double).compile "Sqrt(X)" {}).1 = .ok function
          ∧ ∀ x, function.invoke x = .lift1 Float.sqrt x := by
  have runs : Backend.native ≠ .missing := nofun
  obtain ⟨accepts, values⟩ := compile_realizes_meaning .native runs true .double "Sqrt(X)" {}
  have clean : Diagnostic.hasErrors (tokenize (lowercase "Sqrt(X)")).diagnostics = false := by
    decide +kernel
  have tokens : (tokenize (lowercase "Sqrt(X)")).tokens
      = [⟨.name "sqrt", ⟨0, 4⟩⟩, ⟨.openParen, ⟨4, 5⟩⟩, ⟨.name "x", ⟨5, 6⟩⟩,
        ⟨.closeParen, ⟨6, 7⟩⟩] := by
    decide +kernel
  have reads : Reads .expr (tokenize (lowercase "Sqrt(X)")).tokens
      (.call "sqrt" [.name "x" ⟨5, 6⟩] ⟨0, 7⟩) [] := by
    rw [tokens]
    have arg {rest} : Reads .expr (⟨.name "x", ⟨5, 6⟩⟩ :: ⟨.closeParen, ⟨6, 7⟩⟩ :: rest)
        (.name "x" ⟨5, 6⟩) (⟨.closeParen, ⟨6, 7⟩⟩ :: rest) :=
      .ofTerm (.ofUnary (.ofPower (.ofAtom (.name nofun))))
    exact .ofTerm (.ofUnary (.ofPower (.ofAtom (.call (.firstArgument arg)))))
  have meaning
      : (Formula.call "sqrt" [.name "x" ⟨5, 6⟩] ⟨0, 7⟩).meaning?
        = some (fun x => .lift1 Float.sqrt x) := by
    rfl
  have known := (Formula.isSome_meaning?_iff _).mp (Option.isSome_of_eq_some meaning)
  obtain ⟨function, compiled⟩ := accepts.mpr ⟨clean, _, reads, known⟩
  obtain ⟨value, same, invoked⟩ := values function compiled _ reads
  rw [meaning] at same
  obtain rfl := Option.some.inj same
  exact ⟨runs, function, compiled, invoked⟩

end Compiler

end FormulaCompiler
