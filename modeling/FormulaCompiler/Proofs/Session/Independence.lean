import FormulaCompiler.Proofs.Session.Births
import FormulaCompiler.Proofs.UnitSymbols

/-! Compilations do not depend on what was compiled before. All that the history of a session leaves
in a result is the number of the unit, and nothing that comes later changes a function.
-/

namespace FormulaCompiler

-----------------------------------------------------------------------------------------
-- Compiling one formula in two processes
-----------------------------------------------------------------------------------------

/-- Whether two results of compiling an expression are the same but for the numbers of their units,
which only appear in the symbol and in the text of a unit.
-/
inductive SameButNumber (expression : String) (returnType : ReturnType) (number other : Nat)
    : Except (List Diagnostic) CompiledFunction → Except (List Diagnostic) CompiledFunction
      → Prop
  | refused (reports : List Diagnostic)
    : SameButNumber expression returnType number other (.error reports) (.error reports)
  | closed (warnings : List Diagnostic) (span : Span)
    : SameButNumber expression returnType number other
        (.error (warnings ++ [{
          problem := .missingEntryPoint (CodeUnit.build number expression returnType).symbol
          span }]))
        (.error (warnings ++ [{
          problem := .missingEntryPoint (CodeUnit.build other expression returnType).symbol
          span }]))
  | compiled {function second : CompiledFunction}
    (name : function.name = (CodeUnit.build number expression returnType).symbol)
    (otherName : second.name = (CodeUnit.build other expression returnType).symbol)
    (source : function.source = (CodeUnit.build number expression returnType).render)
    (otherSource : second.source = (CodeUnit.build other expression returnType).render)
    (warnings : function.warnings = second.warnings)
    (values : ∀ x, function.invoke x = second.invoke x)
    : SameButNumber expression returnType number other (.ok function) (.ok second)

/-- The checks of a unit do not look at its number. -/
theorem CodeUnit.analyze_build (number other : Nat) (expression : String)
    (returnType : ReturnType) (options : CompileOptions)
    : (build number expression returnType).analyze options
      = (build other expression returnType).analyze options :=
  rfl

/-- A formula is compiled alike in all processes. Witness: its checks come to the same, and then
each backend computes the value of the checked unit.
-/
theorem Compiler.compile_sameButNumber (compiler : Compiler) (formula : String)
    (first second : Process)
    : SameButNumber (qualify formula compiler.vocabulary compiler.options.matching)
        compiler.options.returnType first.units second.units
        (compiler.compile formula first).1 (compiler.compile formula second).1 := by
  have same : (compiler.unitOf formula first).analyze compiler.options
      = (compiler.unitOf formula second).analyze compiler.options :=
    CodeUnit.analyze_build _ _ _ _ _
  have outcome := compiler.compile_outcome formula first
  have again := compiler.compile_outcome formula second
  generalize compiler.compile formula first = result at outcome
  generalize compiler.compile formula second = repeated at again
  -- Both outcomes are about one analysis, so the mixed cases contradict each other.
  cases outcome with
  | refused refused =>
      rw [same] at refused
      cases again with
      | refused refused' =>
          obtain rfl := Except.error.inj (refused.symm.trans refused')
          exact .refused _
      | closed _ accepted | compiled _ accepted _ _ _ _ _ =>
          exact absurd (refused.symm.trans accepted) nofun
  | closed closed accepted =>
      rw [same] at accepted
      cases again with
      | refused refused => exact absurd (accepted.symm.trans refused) nofun
      | closed _ accepted' =>
          obtain rfl := Except.ok.inj (accepted.symm.trans accepted')
          exact .closed _ _
      | compiled runs _ _ _ _ _ _ => exact absurd closed runs
  | compiled runs accepted _ name source warnings invoked =>
      rw [same] at accepted
      cases again with
      | refused refused => exact absurd (accepted.symm.trans refused) nofun
      | closed closed _ => exact absurd closed runs
      | compiled _ accepted' _ name' source' warnings' invoked' =>
          obtain rfl := Except.ok.inj (accepted.symm.trans accepted')
          exact .compiled name name' source source' (warnings.trans warnings'.symm)
            fun x => (invoked x).trans (invoked' x).symm

-----------------------------------------------------------------------------------------
-- The configuration and the answers of a session
-----------------------------------------------------------------------------------------

/-- The configuration after a command. Only the commands that are about it make a difference. -/
def Compiler.configured (compiler : Compiler) : Command → Compiler
  | .setOptions options => { compiler with options }
  | .setBackend backend? => { compiler with backend := backend?.getD compiler.backend }
  | .setVocabulary vocabulary => { compiler with vocabulary }
  | .reset => {}
  | _ => compiler

/-- The answer to a formula by what compiling it comes to. A function gets this place. -/
def Reply.ofResult (slot : Nat) : Except (List Diagnostic) CompiledFunction → Reply
  | .error reports => .compileFailed reports
  | .ok made => .compiled slot made

namespace Session

theorem compiler_step (session : Session) (command : Command)
    : (session.step command).1.compiler = session.compiler.configured command := by
  cases command with
  | setOptions _ | setBackend _ | setVocabulary _ | reset => rfl
  | invoke _ _ | source _ | describe _ => rfl
  | compile _ | build _ _ _ | drop _ | entry _ _ | call _ _ _ | release _ =>
      simp only [step, compile, build, drop, entry, call, release]
      repeat' split
      all_goals rfl

/-- The configuration is what the commands made of it, one after the other. -/
theorem compiler_after (start : Session) (commands : List Command)
    : (start.after commands).compiler = commands.foldl Compiler.configured start.compiler := by
  induction commands generalizing start with
  | nil => rfl
  | cons command rest ih => rw [after_cons, ih, compiler_step, List.foldl_cons]

/-- A formula is answered by what the compiler of a session makes of it, and a function is kept. -/
theorem compile_answers (session : Session) (formula : String)
    : (session.compile formula).2
        = .ofResult session.functions.length
            (session.compiler.compile formula session.process).1
      ∧ (session.compile formula).1.function? session.functions.length
        = (session.compiler.compile formula session.process).1.toOption := by
  unfold compile
  cases session.compiler.compile formula session.process with
  | mk result process =>
      cases result with
      | error diagnostics => exact ⟨rfl, by simp [function?, Except.toOption]⟩
      | ok function => exact ⟨rfl, by simp [function?, Except.toOption]⟩

-----------------------------------------------------------------------------------------
-- Functions that are kept
-----------------------------------------------------------------------------------------

variable {session : Session} {slot : Nat} {function : CompiledFunction}

theorem Step.function?_eq {command : Command} {result : Session × Reply}
    (step : session.Step command result) (found : session.function? slot = some function)
    (kept : command ≠ .drop slot)
    : result.1.function? slot = some function := by
  cases step with
  | keeps _ _ | refuses _ _ | builds _ _ | releases _ => exact found
  | compiles _ _ =>
      have inside : slot ≠ session.functions.length := by
        rintro rfl
        simp [function?] at found
      exact (join_getElem?_append _ _ _).trans ((if_neg inside).trans found)
  | @drops other _ _ =>
      have apart : other ≠ slot := by
        rintro rfl
        exact kept rfl
      exact (join_getElem?_set _ _ _).trans ((if_neg apart).trans found)

/-- A function stays as it is until it is dropped. -/
theorem function?_after (found : session.function? slot = some function) {commands : List Command}
    (kept : .drop slot ∉ commands)
    : (session.after commands).function? slot = some function := by
  induction commands generalizing session with
  | nil => exact found
  | cons command rest ih =>
      have first : command ≠ .drop slot := by
        rintro rfl
        exact kept List.mem_cons_self
      refine ih ((session.isStep command).function?_eq found first) ?_
      exact fun later => kept (List.mem_cons_of_mem _ later)

-----------------------------------------------------------------------------------------
-- Whole histories
-----------------------------------------------------------------------------------------

theorem Birth.symbol_ne {start : Session} {commands : List Command} {moment later : Nat}
    {job second : Job} {analysis reanalysis : Analysis} {made other : BuiltArtifact}
    (birth : start.Birth commands moment job analysis made)
    (rebirth : start.Birth commands later second reanalysis other)
    (apart : second.place ≠ job.place)
    : made.symbol ≠ other.symbol := by
  rw [birth.makes.symbol, rebirth.makes.symbol]
  exact mt CodeUnit.symbol_build_inj.mp
    (birth.sets.number_ne rebirth.sets (birth.moment_ne rebirth apart))

/-- Compilations are independent of history, whatever a session was told to do before. The number
of a unit counts all units before it, refused ones included. Apart from it, compiling a formula
comes to what it would have come to first in the process, under any configuration; a session
answers with what it comes to under its own, which is what the commands about it left. No two
functions ever have one name, dropped ones included, and each function stays as it is, whatever is
done, until it is dropped itself. Witness: the checks of a unit do not look at its number, the
number grows with each unit, and no command but its own drop touches the place of a function.
-/
theorem compilations_ignore_history (compiler : Compiler) (allocator : Allocator)
    (history : List Command)
    : let first : Process := { allocator }
      let start : Session := { compiler, process := first }
      let now := start.after history
      now.process.units = history.countP Command.buildsUnit
      ∧ (∀ (configuration : Compiler) (formula : String),
          SameButNumber (qualify formula configuration.vocabulary configuration.options.matching)
            configuration.options.returnType 0 (history.countP Command.buildsUnit)
            (configuration.compile formula first).1
            (configuration.compile formula now.process).1)
      ∧ now.compiler = history.foldl Compiler.configured compiler
      ∧ (∀ formula,
          let result := (now.compiler.compile formula now.process).1
          (now.step (.compile formula)).2 = .ofResult now.functions.length result
          ∧ (now.step (.compile formula)).1.function? now.functions.length = result.toOption)
      ∧ (∀ moment slot other function second,
          (start.after (history.take moment)).function? slot = some function
          → now.function? other = some second
          → slot ≠ other
          → function.name ≠ second.name)
      ∧ ∀ slot function more,
          now.function? slot = some function
          → .drop slot ∉ more
          → (now.after more).function? slot = some function := by
  intro first start now
  have counted : now.process.units = history.countP Command.buildsUnit :=
    (units_after start history).trans (Nat.zero_add _)
  refine ⟨counted, ?_, compiler_after start history, now.compile_answers, ?_, ?_⟩
  · intro configuration formula
    have same := configuration.compile_sameButNumber formula first now.process
    rw [counted] at same
    exact same
  · intro cut slot other function second found otherFound apart
    have empty := held?_fresh compiler first
    obtain ⟨moment, job, analysis, place, birth, -⟩ :=
      exists_birth empty (history.take cut) (held?_function found)
    obtain ⟨later, rejob, reanalysis, otherPlace, rebirth, -⟩ :=
      exists_birth empty history (held?_function otherFound)
    have places : rejob.place ≠ job.place := by
      rw [place, otherPlace]
      exact fun same => apart (Place.function.inj same).symm
    exact birth.of_take.symbol_ne rebirth places
  · intro slot function more found kept
    exact function?_after found kept

/-- The square is named apart from a function that was dropped, and stays as others come and go. -/
theorem square_ignores_history
    : let history : List Command :=
        [.compile "x", .compile "y", .setBackend (some .interpreter), .compile "X * X", .drop 0]
      let more : List Command := [.reset, .compile "-x", .drop 2, .setVocabulary (.ofNames [])]
      let now := after {} history
      ∃ function second,
        (after {} (history.take 1)).function? 0 = some function
        ∧ now.function? 0 = none
        ∧ now.function? 1 = some second
        ∧ now.compiler = { backend := .interpreter }
        ∧ function.name ≠ second.name
        ∧ (now.after more).function? 1 = some second := by
  intro history more now
  obtain ⟨-, -, configured, -, names, kept⟩ := compilations_ignore_history {} .growing history
  have before : ((after {} (history.take 1)).function? 0).isSome := by decide +kernel
  have gone : (now.function? 0).isNone := by decide +kernel
  have held : (now.function? 1).isSome := by decide +kernel
  obtain ⟨function, found⟩ := Option.isSome_iff_exists.mp before
  obtain ⟨second, otherFound⟩ := Option.isSome_iff_exists.mp held
  have others : .drop 1 ∉ more := by simp [more]
  exact ⟨function, second, found, Option.isNone_iff_eq_none.mp gone, otherFound, configured,
    names 1 0 1 function second found otherFound nofun, kept 1 second more otherFound others⟩

end Session

end FormulaCompiler
