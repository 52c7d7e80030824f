import FormulaCompiler.Proofs.BindingReports
import FormulaCompiler.Proofs.Compilation
import FormulaCompiler.Proofs.ReportSpans

/-! The words of a formula that mean nothing. A formula without colons has single words only, and
each of them is written as the path of a member, which is found again, or stays the word it is. So
no module and no member of it is ever missed, and every word that is neither is reported.
-/

namespace FormulaCompiler

open Qualification

-----------------------------------------------------------------------------------------
-- Words and the paths that they are written as
-----------------------------------------------------------------------------------------

/-- Whether a word is the lower-case name of a member of the library. -/
def Library.Recognizes (word : String) : Prop :=
  ∃ found ∈ members, lowercase found.name = word

instance (word : String) : Decidable (Library.Recognizes word) :=
  inferInstanceAs (Decidable (∃ found ∈ Library.members, lowercase found.name = word))

/-- Whether a word of a lower-case formula is written as this path: the name of a member as the path
to that member, and every other word as it is.
-/
inductive WordLeads : String → String → Prop
  | known {found} (listed : found ∈ Library.members)
    : WordLeads (lowercase found.name) (Library.moduleName ++ "::" ++ found.name)
  | unknown {word} (isWord : isIdentifier word) (unknown : ¬Library.Recognizes word)
    : WordLeads word word

/-- A path without colons is one word. -/
theorem wordLeads_of_qualifies {path other : String} (qualifies : Qualifies .standard path other)
    (noColon : ∀ c ∈ path.toList, c ≠ ':')
    : WordLeads path other := by
  obtain ⟨first, words, word, -, rfl, rfl⟩ := qualifies
  cases words with
  | cons second words =>
      -- A second word has a double colon before it.
      exact absurd rfl (noColon ':' (by simp))
  | nil =>
      rw [qualifiedPath, List.map_nil, colonned_nil, List.append_nil, List.append_nil]
      cases known : Vocabulary.standard.canonical? (String.ofList first) with
      | some name =>
          obtain ⟨found, listed, rfl, form⟩ := Library.canonical?_standard_iff.mp known
          have path
              : String.ofList (spelling .standard false first)
                = Library.moduleName ++ "::" ++ found.name := by
            rw [← String.toList_inj, String.toList_ofList]
            simp [spelling, known, libraryPath]
          rw [path, ← form]
          exact .known listed
      | none =>
          rw [spelling_of_unknown known]
          refine .unknown (isWord_iff_isIdentifier.mp (by rwa [String.toList_ofList])) ?_
          rintro ⟨found, listed, form⟩
          rw [Library.canonical?_standard_iff.mpr ⟨found, listed, rfl, form⟩] at known
          cases known

/-- The names of a formula without colons are words, which are written as paths one by one. -/
theorem corresponds_words {formula : String} (noColon : ':' ∉ formula.toList)
    : Lexeme.Corresponds WordLeads (Lexeme.contents (lowercase formula).toList)
        (Lexeme.contents (qualify formula .standard .tokens).toList) := by
  have agree : Agrees .standard (· ≠ ':') (lowercase formula).toList :=
    agrees Library.isIdentifier_standard _
  have lowered : ∀ c ∈ (lowercase formula).toList, c ≠ ':' := by
    rintro c member rfl
    rw [lowercase, String.toList_ofList] at member
    exact noColon (colon_mem_of_mem_lowercaseAfter member)
  rw [qualify, String.toList_ofList]
  exact (agree lowered).mono fun path other related =>
    wordLeads_of_qualifies related.1 related.2

-----------------------------------------------------------------------------------------
-- What is reported about one word
-----------------------------------------------------------------------------------------

/-- Whether a report is about a path that leads nowhere, whatever part of it is to blame. -/
def Diagnostic.isUnresolved (report : Diagnostic) : Bool :=
  report.problem.code ∈ ["CF0101", "CF0102"]

/-- What is reported about a word that means nothing. -/
def unknownWord? (span : Span) (word : String) : Option Diagnostic :=
  if word = "x" ∨ Library.Recognizes word then none
  else some { problem := .unknownName word, span }

namespace WordLeads

variable {word path : String} (leads : WordLeads word path) (span : Span)

include leads

/-- The path of a member leads to it and is not the parameter, and another word leads nowhere. -/
theorem resolves
    : (Library.Recognizes word ∧ path ≠ Scope.standard.parameter
        ∧ ∃ found, Scope.standard.resolve path = .ok found)
      ∨ ¬Library.Recognizes word ∧ path = word
        ∧ Scope.standard.resolve path = .error (.unknownName word) := by
  cases leads with
  | @known found listed =>
      refine .inl ⟨⟨found, listed, rfl⟩, ?_, found, ?_⟩
      · intro same
        have letters := congrArg String.toList same
        rw [String.append_assoc, String.toList_append] at letters
        exact absurd (List.cons.inj letters).1 (by decide)
      · exact Scope.resolve_eq_ok_iff.mpr ⟨List.mem_cons_self, listed, rfl⟩
  | unknown isWord unknown =>
      refine .inr ⟨unknown, rfl, ?_⟩
      have noPart := splitPath?_part (isWord_iff_isIdentifier.mpr isWord).2 []
      rw [List.append_nil] at noPart
      rw [Scope.resolve, noPart]
      rfl

/-- Whatever a path is used for, it is reported as unresolved exactly if its word means nothing. All
that matters is that the parameter and members are not, and that paths that lead nowhere are.
-/
theorem filter_reported {resolved : Except Problem Expr}
    (parameter
      : path = Scope.standard.parameter
        → (reported span resolved).filter Diagnostic.isUnresolved = [])
    (member
      : path ≠ Scope.standard.parameter → ∀ found, Scope.standard.resolve path = .ok found
        → (reported span resolved).filter Diagnostic.isUnresolved = [])
    (nowhere
      : path ≠ Scope.standard.parameter → ∀ problem, Scope.standard.resolve path = .error problem
        → resolved = .error problem)
    : (reported span resolved).filter Diagnostic.isUnresolved
      = (unknownWord? span word).toList := by
  rcases leads.resolves with ⟨known, other, found, leads⟩ | ⟨unknown, rfl, failed⟩
  · have quiet : unknownWord? span word = none := if_pos (.inr known)
    rw [quiet, member other found leads]
    rfl
  · by_cases own : path = Scope.standard.parameter
    · have quiet : unknownWord? span path = none := if_pos (.inl own)
      rw [quiet, parameter own]
      rfl
    · have said : unknownWord? span path = some { problem := .unknownName path, span } :=
        if_neg (not_or.mpr ⟨own, unknown⟩)
      rw [said, nowhere own _ failed]
      rfl

theorem filter_name
    : (reported span (Scope.standard.name path)).filter Diagnostic.isUnresolved
      = (unknownWord? span word).toList := by
  refine leads.filter_reported span ?_ ?_ ?_
  · intro own
    rw [Scope.name, if_pos own]
    rfl
  · intro other found resolved
    rw [Scope.name, if_neg other, resolved]
    dsimp only
    split <;> rfl
  · intro other problem failed
    rw [Scope.name, if_neg other, failed]

theorem filter_call (arguments : List Expr)
    : (reported span (Scope.standard.call path arguments)).filter Diagnostic.isUnresolved
      = (unknownWord? span word).toList := by
  refine leads.filter_reported span ?_ ?_ ?_
  · intro own
    rw [Scope.call, if_pos own]
    rfl
  · intro other found resolved
    rw [Scope.call_eq, if_neg other, resolved]
    dsimp only
    split <;> rfl
  · intro other problem failed
    rw [Scope.call, if_neg other, failed]

end WordLeads

-----------------------------------------------------------------------------------------
-- What is reported about all words
-----------------------------------------------------------------------------------------

/-- What is reported about the words of items that mean nothing, at the places of other items. -/
def unknownWords (words items : List PostfixItem) : List Diagnostic :=
  (words.zip items).filterMap fun pair => pair.1.content.path?.bind (unknownWord? pair.2.span)

namespace Scope

/-- What is reported as unresolved about one item is its word, if that means nothing. -/
theorem filter_reduce? {word item : PostfixItem} {stack : List Expr} {reduction : Reduction}
    (same : word.content.Renames WordLeads item.content)
    (reduced : Scope.standard.reduce? stack item.content = some reduction)
    : (reduction.problem?.toList.map fun problem =>
        ({ problem, span := item.span } : Diagnostic)).filter Diagnostic.isUnresolved
      = (word.content.path?.bind (unknownWord? item.span)).toList := by
  obtain ⟨node, place⟩ := word
  obtain ⟨content, span⟩ := item
  cases same with
  | number =>
      cases reduced
      rfl
  | name leads =>
      cases reduced
      rw [map_problem?_ofResolved]
      exact leads.filter_name span
  | negate =>
      rcases stack with _ | ⟨arg, below⟩ <;> cases reduced
      rfl
  | operator =>
      rcases stack with _ | ⟨right, _ | ⟨left, below⟩⟩ <;> cases reduced
      dsimp only
      split <;> rfl
  | call leads =>
      rw [reduce?] at reduced
      split at reduced <;> cases reduced
      rw [map_problem?_ofResolved]
      exact leads.filter_call span _

/-- By induction over the items, where each of them finds enough expressions. -/
theorem filter_bindOnto {words items : List PostfixItem} {stack : List Expr}
    (same : ItemsRename WordLeads words items)
    (bound : (Scope.standard.bindOnto stack items).1.isSome)
    : (Scope.standard.bindOnto stack items).2.filter Diagnostic.isUnresolved
      = unknownWords words items := by
  induction same generalizing stack with
  | nil =>
      unfold bindOnto
      split <;> rfl
  | @cons word item words items head _ ih =>
      cases reduced : Scope.standard.reduce? stack item.content with
      | none =>
          -- Words behind an item that finds too little would not be reported.
          rw [bindOnto, reduced] at bound
          cases bound
      | some reduction =>
          rw [bindOnto_cons reduced] at bound ⊢
          rw [prepend, List.filter_append, filter_reduce? head reduced, ih bound, unknownWords,
            unknownWords, List.zip_cons_cons, List.filterMap_cons]
          cases word.content.path?.bind (unknownWord? item.span) <;> rfl

end Scope

theorem exists_word_of_mem_unknownWords {words items : List PostfixItem} {report : Diagnostic}
    (listed : report ∈ unknownWords words items)
    : ∃ word, report.problem = .unknownName word := by
  obtain ⟨pair, -, found⟩ := List.mem_filterMap.mp listed
  obtain ⟨word, -, said⟩ := Option.bind_eq_some_iff.mp found
  unfold unknownWord? at said
  split at said <;> cases said
  exact ⟨word, rfl⟩

-----------------------------------------------------------------------------------------
-- The reports of a unit
-----------------------------------------------------------------------------------------

namespace Diagnostic

variable {report : Diagnostic}

theorem isUnresolved_iff
    : report.isUnresolved
      ↔ report.problem.code = "CF0101" ∨ report.problem.code = "CF0102" := by
  simp [isUnresolved]

theorem code_of_isUnresolved (unresolved : report.isUnresolved)
    : report.problem.code ∈ Problem.nameCodes := by
  rcases isUnresolved_iff.mp unresolved with same | same <;> rw [same] <;> decide

theorem filter_tokenize (text : String)
    : (tokenize text).diagnostics.filter isUnresolved = [] := by
  refine List.filter_eq_nil_iff.mpr fun report listed unresolved => ?_
  have named := code_of_isUnresolved unresolved
  rcases CodeUnit.code_of_cutting listed with same | same | same <;> rw [same] at named <;>
    exact absurd named (by decide)

theorem Fatal.not_isUnresolved (fatal : report.Fatal) : ¬report.isUnresolved := by
  intro unresolved
  exact Problem.code_not_mem_nameCodes fatal.kind nofun (code_of_isUnresolved unresolved)

/-- Paths that lead nowhere are errors, which are not raised. -/
theorem Original.escalate_eq (original : report.Original) (unresolved : report.isUnresolved)
    : report.escalate = report := by
  obtain ⟨kind, known⟩ := Option.isSome_iff_exists.mp original.known
  have severe : report.problem.severity = .error := by
    refine Problem.severity_of_kind? known ?_
    rintro rfl
    exact Problem.code_not_mem_nameCodes known nofun (code_of_isUnresolved unresolved)
  have isError : report.isError := by simp [Diagnostic.isError, severity, severe]
  exact if_pos isError

theorem filter_map_escalate {reports : List Diagnostic}
    (original : ∀ report ∈ reports, report.Original)
    : (reports.map escalate).filter isUnresolved = reports.filter isUnresolved := by
  have same : isUnresolved ∘ escalate = isUnresolved := by
    funext report
    simp only [Function.comp_apply, isUnresolved, problem_escalate]
  rw [List.filter_map, same]
  refine (List.map_congr_left fun report listed => ?_).trans (List.map_id _)
  obtain ⟨member, unresolved⟩ := List.mem_filter.mp listed
  exact (original report member).escalate_eq unresolved

/-- Where all paths that lead nowhere are single words, the others of them are not reported. -/
theorem filter_code_eq {reports : List Diagnostic}
    (words
      : ∀ report ∈ reports, report.isUnresolved → ∃ word, report.problem = .unknownName word)
    : (reports.filter fun report => report.problem.code = "CF0101")
      = reports.filter isUnresolved := by
  refine List.filter_congr fun report listed => ?_
  cases unresolved : report.isUnresolved with
  | true =>
      obtain ⟨word, same⟩ := words report listed unresolved
      rw [same]
      rfl
  | false =>
      refine decide_eq_false fun same => ?_
      exact absurd (isUnresolved_iff.mpr (.inl same)) (Bool.eq_false_iff.mp unresolved)

end Diagnostic

namespace CodeUnit

variable {unit : CodeUnit} {options : CompileOptions}

theorem filter_check_of_none (nothing : unit.check.1 = none)
    : unit.check.2.filter Diagnostic.isUnresolved = [] := by
  rcases unit.check_cases with ⟨-, checked⟩ | ⟨report, fatal, checked⟩ | ⟨formula, checked⟩
  · rw [checked, Diagnostic.filter_tokenize]
  · rw [checked, List.filter_append, Diagnostic.filter_tokenize, List.nil_append]
    exact List.filter_cons_of_neg fatal.not_isUnresolved
  · rw [checked] at nothing
    cases nothing

theorem filter_check_of_readAs {tree : Formula} (readAs : unit.ReadAs tree)
    : unit.check.2.filter Diagnostic.isUnresolved
      = (unit.scope.bind tree.postorder).2.filter Diagnostic.isUnresolved := by
  rw [check_of_readAs readAs, Scope.bind_postorder, List.filter_append,
    Diagnostic.filter_tokenize, List.nil_append]

theorem filter_reports
    : (unit.reports options).filter Diagnostic.isUnresolved
      = unit.check.2.filter Diagnostic.isUnresolved := by
  unfold reports
  split
  · exact Diagnostic.filter_map_escalate fun report => original_of_mem_check
  · rfl

end CodeUnit

section

variable {formula : String} {number : Nat} {returnType : ReturnType}
  (noColon : ':' ∉ formula.toList)

include noColon

/-- A formula whose body is read as a tree is itself read as a tree with a word for every path, and
the words that mean nothing are what is unresolved.
-/
theorem exists_words_of_readAs {tree : Formula}
    (readAs : (formulaUnit formula number returnType).ReadAs tree)
    : ∃ words, Parses formula words
        ∧ ItemsRename WordLeads words.postorder tree.postorder
        ∧ (formulaUnit formula number returnType).check.2.filter Diagnostic.isUnresolved
          = unknownWords words.postorder tree.postorder := by
  obtain ⟨words, parses, same⟩ := parses_of_corresponds (corresponds_words noColon) readAs
  have renames := Formula.Renames.postorder words tree same
  have bound : (Scope.standard.bind tree.postorder).1.isSome := by
    rw [Scope.bind_postorder]
    rfl
  refine ⟨words, parses, renames, ?_⟩
  rw [CodeUnit.filter_check_of_readAs readAs]
  exact Scope.filter_bindOnto renames bound

/-- What is unresolved are single words, whatever the checks of a body come to. -/
theorem exists_word_of_isUnresolved {report : Diagnostic}
    (listed
      : report ∈ (formulaUnit formula number returnType).check.2.filter Diagnostic.isUnresolved)
    : ∃ word, report.problem = .unknownName word := by
  cases checked : (formulaUnit formula number returnType).check.1 with
  | none =>
      rw [CodeUnit.filter_check_of_none checked] at listed
      cases listed
  | some expr =>
      obtain ⟨tree, readAs⟩ := CodeUnit.readAs_of_check (Prod.ext checked rfl)
      obtain ⟨words, -, -, same⟩ := exists_words_of_readAs noColon readAs
      rw [same] at listed
      exact exists_word_of_mem_unknownWords listed

end

-----------------------------------------------------------------------------------------
-- Whole compilations
-----------------------------------------------------------------------------------------

/-- The reports of a compilation, whether it gives a function or not. -/
def CompiledFunction.reportsOf : Except (List Diagnostic) CompiledFunction → List Diagnostic
  | .ok function => function.warnings
  | .error reports => reports

namespace Compiler

/-- Paths that lead nowhere are found by the checks of a unit, and by nothing else. -/
theorem filter_reportsOf (compiler : Compiler) (formula : String) (process : Process)
    : (CompiledFunction.reportsOf (compiler.compile formula process).1).filter
          Diagnostic.isUnresolved
      = (compiler.unitOf formula process).check.2.filter Diagnostic.isUnresolved := by
  have outcome := compiler.compile_outcome formula process
  have all := (compiler.unitOf formula process).analyze_reports compiler.options
  generalize compiler.compile formula process = result at outcome
  cases outcome with
  | refused refused =>
      rw [refused] at all
      rw [CompiledFunction.reportsOf, all, CodeUnit.filter_reports]
  | closed _ accepted =>
      rw [accepted] at all
      rw [CompiledFunction.reportsOf, List.filter_append, all, CodeUnit.filter_reports]
      exact List.append_nil _
  | compiled _ accepted _ _ _ warnings _ =>
      rw [accepted] at all
      rw [CompiledFunction.reportsOf, warnings, all, CodeUnit.filter_reports]

theorem exists_word_of_mem_reportsOf {backend : Backend} {options : CompileOptions}
    {formula : String} {process : Process} (noColon : ':' ∉ formula.toList) {report : Diagnostic}
    (listed
      : report ∈ CompiledFunction.reportsOf
          (compile ⟨.standard, backend, { options with matching := .tokens }⟩ formula process).1)
    (unresolved : report.isUnresolved)
    : ∃ word, report.problem = .unknownName word := by
  have member := List.mem_filter.mpr ⟨listed, unresolved⟩
  rw [filter_reportsOf] at member
  exact exists_word_of_isUnresolved noColon member

/-- In a formula without colons nothing is reported of a module or of a missing member of one,
whatever the backend and the options are. If its body is cut without an error and read into items,
then so is the formula in lower case, with a word for every path; and what is reported of unknown
names are the words that are neither the parameter nor the lower-case name of a member, one by one
in postfix order. Witness: the vocabulary has the names of exactly the members that paths lead to.
-/
theorem compile_reports_unknown_words (backend : Backend) (options : CompileOptions)
    (formula : String) (process : Process) (noColon : ':' ∉ formula.toList)
    : let compiler : Compiler := ⟨.standard, backend, { options with matching := .tokens }⟩
      let lowered := lowercase formula
      let body := qualify formula .standard .tokens
      let found := CompiledFunction.reportsOf (compiler.compile formula process).1
      (∀ report ∈ found,
        report.problem.code ≠ "CF0102"
        ∧ ∀ module member, report.problem ≠ .unknownMember module member)
      ∧ ∀ items,
          Diagnostic.hasErrors (tokenize body).diagnostics = false
          → ShuntingYard.postfixOrder (tokenize body).tokens (byteLength body.toList) = .ok items
          → ∃ words,
              Diagnostic.hasErrors (tokenize lowered).diagnostics = false
              ∧ ShuntingYard.postfixOrder (tokenize lowered).tokens (byteLength lowered.toList)
                = .ok words
              ∧ ItemsRename WordLeads words items
              ∧ found.filter (·.problem.code = "CF0101") = unknownWords words items := by
  intro compiler lowered body found
  constructor
  · intro report listed
    have single (unresolved : report.isUnresolved) : ∃ word, report.problem = .unknownName word :=
      exists_word_of_mem_reportsOf noColon listed unresolved
    constructor
    · intro module
      obtain ⟨word, same⟩ := single (Diagnostic.isUnresolved_iff.mpr (.inr module))
      rw [same] at module
      exact absurd module (by simp [Problem.code])
    · intro module member missing
      have code : report.problem.code = "CF0101" := by rw [missing, Problem.code]
      obtain ⟨word, same⟩ := single (Diagnostic.isUnresolved_iff.mpr (.inl code))
      cases missing.symm.trans same
  · intro items clean accepted
    obtain ⟨tree, reads, rfl⟩ := ShuntingYard.reads_of_postfixOrder accepted
    have readAs : (formulaUnit formula process.units options.returnType).ReadAs tree :=
      ⟨clean, reads⟩
    obtain ⟨words, parses, renames, unresolved⟩ := exists_words_of_readAs noColon readAs
    refine ⟨words.postorder, parses.clean, ShuntingYard.postfixOrder_of_reads parses.reads _,
      renames, ?_⟩
    rw [Diagnostic.filter_code_eq fun report => exists_word_of_mem_reportsOf noColon,
      filter_reportsOf]
    exact unresolved

/-- A value and a function that mean nothing are reported, and no member of the library is. -/
theorem compile_reports_value_and_function
    : let formula := "Sin(Y) / Foo(pI)"
      let compiler : Compiler := ⟨.standard, .native, { matching := .tokens }⟩
      let found := CompiledFunction.reportsOf (compiler.compile formula {}).1
      ':' ∉ formula.toList
      ∧ (∀ report ∈ found, report.problem.code ≠ "CF0102")
      ∧ (found.filter fun report => report.problem.code = "CF0101")
        = [{ problem := .unknownName "y", span := ⟨10, 11⟩ },
          { problem := .unknownName "foo", span := ⟨15, 28⟩ }] := by
  intro formula compiler found
  have noColon : ':' ∉ formula.toList := by decide
  have written : qualify formula .standard .tokens = "math::sin(y) / foo(math::PI)" := by
    decide +kernel
  have clean
      : Diagnostic.hasErrors (tokenize "math::sin(y) / foo(math::PI)").diagnostics = false := by
    cbv
  have tokens
      : (tokenize "math::sin(y) / foo(math::PI)").tokens
        = [⟨.name "math::sin", ⟨0, 9⟩⟩, ⟨.openParen, ⟨9, 10⟩⟩, ⟨.name "y", ⟨10, 11⟩⟩,
          ⟨.closeParen, ⟨11, 12⟩⟩, ⟨.operator .divide, ⟨13, 14⟩⟩, ⟨.name "foo", ⟨15, 18⟩⟩,
          ⟨.openParen, ⟨18, 19⟩⟩, ⟨.name "math::PI", ⟨19, 27⟩⟩, ⟨.closeParen, ⟨27, 28⟩⟩] := by
    cbv
  have lowered
      : (tokenize (lowercase formula)).tokens
        = [⟨.name "sin", ⟨0, 3⟩⟩, ⟨.openParen, ⟨3, 4⟩⟩, ⟨.name "y", ⟨4, 5⟩⟩,
          ⟨.closeParen, ⟨5, 6⟩⟩, ⟨.operator .divide, ⟨7, 8⟩⟩, ⟨.name "foo", ⟨9, 12⟩⟩,
          ⟨.openParen, ⟨12, 13⟩⟩, ⟨.name "pi", ⟨13, 15⟩⟩, ⟨.closeParen, ⟨15, 16⟩⟩] := by
    cbv
  let items : List PostfixItem :=
    [⟨.name "y", ⟨10, 11⟩⟩, ⟨.call "math::sin" 1, ⟨0, 12⟩⟩, ⟨.name "math::PI", ⟨19, 27⟩⟩,
      ⟨.call "foo" 1, ⟨15, 28⟩⟩, ⟨.operator .divide, ⟨13, 14⟩⟩]
  obtain ⟨quiet, said⟩ := compile_reports_unknown_words .native {} formula {} noColon
  rw [written, tokens] at said
  obtain ⟨words, -, read, -, unknown⟩ := said items clean rfl
  rw [lowered] at read
  cases read
  exact ⟨noColon, fun report listed => (quiet report listed).1, unknown⟩

end Compiler

end FormulaCompiler
