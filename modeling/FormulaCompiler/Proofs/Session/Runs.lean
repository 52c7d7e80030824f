import FormulaCompiler.Proofs.Driver
import FormulaCompiler.Session

/-! Runs of a session: what one command does to it, and from there what many commands in a row do.
-/

namespace FormulaCompiler

/-- A place that a session keeps an artifact in, with its function or by itself. -/
inductive Place where
  | function (slot : Nat)
  | artifact (number : Nat)
deriving DecidableEq

/-- A unit to build, the way to compile it, and the place for what comes of it. -/
structure Job where
  backend : Backend
  number : Nat
  body : String
  options : CompileOptions
  place : Place

/-- The unit that a job builds. -/
def Job.unit (job : Job) : CodeUnit :=
  CodeUnit.build job.number job.body job.options.returnType

/-- Whether an artifact is what comes of a job in a process, by the analysis of its unit. -/
structure Job.Makes (job : Job) (process : Process) (analysis : Analysis) (made : BuiltArtifact)
    : Prop where
  accepted : job.unit.analyze job.options = .ok analysis
  symbol : made.symbol = job.unit.symbol
  artifact : job.backend.Makes job.unit.symbol process.nextCode analysis.value made.artifact

theorem Job.Makes.memory_occupy {job : Job} {process : Process} {analysis : Analysis}
    {made : BuiltArtifact} (makes : job.Makes process analysis made)
    : (job.backend.occupy process.takeUnit.2).memory
      = made.artifact.code?.elim process.memory process.memory.occupy := by
  have placed
      : job.backend.Makes job.unit.symbol process.takeUnit.2.nextCode analysis.value
          made.artifact :=
    makes.artifact
  exact placed.memory_occupy

/-- A function, as the artifact that it keeps alive. -/
def CompiledFunction.built (function : CompiledFunction) : BuiltArtifact :=
  { symbol := function.name, artifact := function.artifact }

/-- Whether a command builds a unit. -/
def Command.buildsUnit : Command → Bool
  | .compile _ | .build _ _ _ => true
  | _ => false

/-- How many artifacts come to life where a command is answered so. -/
def Reply.gain : Reply → Int
  | .compiled _ _ | .built _ _ _ => 1
  | .dropped => -1
  | _ => 0

namespace Session

/-- The session after commands that are carried out in order. -/
def after (session : Session) (commands : List Command) : Session :=
  (session.run commands).1

/-- What a place holds. -/
def held? (session : Session) : Place → Option BuiltArtifact
  | .function slot => (session.function? slot).map CompiledFunction.built
  | .artifact number => session.artifact? number

/-- The job that a command sets. -/
def job? (session : Session) : Command → Option Job
  | .compile formula =>
    some {
      backend := session.compiler.backend
      number := session.process.units
      body := qualify formula session.compiler.vocabulary session.compiler.options.matching
      options := session.compiler.options
      place := .function session.functions.length }
  | .build backend body options =>
    some {
      backend
      number := session.process.units
      body
      options
      place := .artifact session.artifacts.length }
  | _ => none

-----------------------------------------------------------------------------------------
-- One command
-----------------------------------------------------------------------------------------

/-- Everything a command can do: nothing to what is held, to set a job that is refused or fills the
next place, or to empty a place.
-/
inductive Step (session : Session) : Command → Session × Reply → Prop
  | keeps {command compiler entries reply} (idle : session.job? command = none)
    (quiet : reply.gain = 0)
    : Step session command ({ session with compiler, entries }, reply)
  | refuses {command job reply} (asked : session.job? command = some job)
    (quiet : reply.gain = 0)
    : Step session command ({ session with process := session.process.takeUnit.2 }, reply)
  | compiles {formula job analysis function}
    (asked : session.job? (.compile formula) = some job)
    (makes : job.Makes session.process analysis function.built)
    : Step session (.compile formula)
        ({ session with
            functions := session.functions ++ [some function]
            process := job.backend.occupy session.process.takeUnit.2 },
          .compiled session.functions.length function)
  | builds {backend body options job analysis made warnings}
    (asked : session.job? (.build backend body options) = some job)
    (makes : job.Makes session.process analysis made)
    : Step session (.build backend body options)
        ({ session with
            artifacts := session.artifacts ++ [some made]
            process := job.backend.occupy session.process.takeUnit.2 },
          .built session.artifacts.length made.symbol warnings)
  | drops {slot function} (found : session.function? slot = some function)
    : Step session (.drop slot)
        ({ session with
            functions := session.functions.set slot none
            process := session.process.release function.artifact.code? },
          .dropped)
  | releases {number made} (found : session.artifact? number = some made)
    : Step session (.release number)
        ({ session with
            artifacts := session.artifacts.set number none
            process := session.process.release made.artifact.code? },
          .dropped)

theorem isStep_compile (session : Session) (formula : String)
    : session.Step (.compile formula) (session.compile formula) := by
  have outcome := session.compiler.compile_outcome formula session.process
  unfold compile
  generalize session.compiler.compile formula session.process = result at outcome
  cases outcome with
  | refused _ | closed _ _ => exact .refuses rfl rfl
  | compiled _ accepted makes name _ _ _ => exact .compiles rfl ⟨accepted, name, makes⟩

theorem build_eq (session : Session) (backend : Backend) (body : String)
    (options : CompileOptions)
    : session.build backend body options
      = match backend.compile (.build session.process.units body options.returnType) options
          session.process.takeUnit.2 with
        | (.error diagnostics, process) => ({ session with process }, .buildFailed diagnostics)
        | (.ok compilation, process) =>
          let symbol := (CodeUnit.build session.process.units body options.returnType).symbol
          ({ session with
              artifacts := session.artifacts ++ [some { symbol, artifact := compilation.artifact }]
              process },
            .built session.artifacts.length symbol compilation.warnings) :=
  rfl

theorem isStep_build (session : Session) (backend : Backend) (body : String)
    (options : CompileOptions)
    : session.Step (.build backend body options) (session.build backend body options) := by
  have outcome :=
    backend.compile_outcome (.build session.process.units body options.returnType) options
      session.process.takeUnit.2
  rw [build_eq]
  generalize backend.compile _ _ _ = result at outcome
  cases outcome with
  | refused _ => exact .refuses rfl rfl
  | made accepted makes => exact .builds rfl ⟨accepted, rfl, makes⟩

theorem isStep_drop (session : Session) (slot : Nat)
    : session.Step (.drop slot) (session.drop slot) := by
  unfold drop
  cases found : session.function? slot with
  | none => exact .keeps rfl rfl
  | some function => exact .drops found

theorem isStep_release (session : Session) (number : Nat)
    : session.Step (.release number) (session.release number) := by
  unfold release
  cases found : session.artifact? number with
  | none => exact .keeps rfl rfl
  | some made => exact .releases found

theorem isStep_entry (session : Session) (number : Nat) (choice : SymbolChoice)
    : session.Step (.entry number choice) (session.entry number choice) := by
  unfold entry
  repeat' split
  all_goals exact .keeps rfl rfl

theorem isStep_withFunction (session : Session) {command : Command}
    (idle : session.job? command = none) (slot : Nat) {reply : CompiledFunction → Reply}
    (quiet : ∀ function, (reply function).gain = 0)
    : session.Step command (session.withFunction slot reply) := by
  unfold withFunction
  cases session.function? slot with
  | none => exact .keeps idle rfl
  | some function => exact .keeps idle (quiet function)

theorem isStep (session : Session) (command : Command)
    : session.Step command (session.step command) := by
  cases command with
  | setOptions _ | setBackend _ | setVocabulary _ | reset => exact .keeps rfl rfl
  | compile formula => exact session.isStep_compile formula
  | invoke slot _ | source slot | describe slot =>
      exact session.isStep_withFunction rfl slot fun _ => rfl
  | drop slot => exact session.isStep_drop slot
  | build backend body options => exact session.isStep_build backend body options
  | entry number choice => exact session.isStep_entry number choice
  | call number choice xs =>
      unfold step call
      dsimp only
      split <;> exact .keeps rfl rfl
  | release number => exact session.isStep_release number

-----------------------------------------------------------------------------------------
-- What a command does to the process and to a place
-----------------------------------------------------------------------------------------

theorem isSome_job? (session : Session) (command : Command)
    : (session.job? command).isSome = command.buildsUnit := by
  cases command <;> rfl

theorem held?_function {session : Session} {slot : Nat} {function : CompiledFunction}
    (found : session.function? slot = some function)
    : session.held? (.function slot) = some function.built :=
  congrArg (Option.map CompiledFunction.built) found

theorem join_getElem?_append {α : Type} (places : List (Option α)) (value : α) (place : Nat)
    : (places ++ [some value])[place]?.join
      = if place = places.length then some value else places[place]?.join := by
  rcases Nat.lt_trichotomy place places.length with inside | rfl | outside
  · rw [List.getElem?_append_left inside, if_neg (Nat.ne_of_lt inside)]
  · simp
  · have beyond : (places ++ [some value]).length ≤ place := by
      rw [List.length_append]
      exact outside
    rw [if_neg (Nat.ne_of_gt outside), List.getElem?_eq_none beyond,
      List.getElem?_eq_none (Nat.le_of_lt outside)]

theorem join_getElem?_set {α : Type} (places : List (Option α)) (place other : Nat)
    : (places.set place none)[other]?.join
      = if place = other then none else places[other]?.join := by
  rw [List.getElem?_set]
  split
  · split <;> rfl
  · rfl

/-- How a command changes what a session holds: not at all, or in one place that is filled or
emptied. The memory of the code that comes or goes with it is taken or given up.
-/
inductive Change (session : Session) (command : Command) (next : Session) : Prop
  | keeps (held : ∀ place, next.held? place = session.held? place)
    (memory : next.process.memory = session.process.memory)
  | fills {job analysis made} (asked : session.job? command = some job)
    (makes : job.Makes session.process analysis made)
    (held
      : ∀ place, next.held? place = if place = job.place then some made else session.held? place)
    (memory
      : next.process.memory
        = made.artifact.code?.elim session.process.memory session.process.memory.occupy)
  | empties {place made} (found : session.held? place = some made)
    (held : ∀ other, next.held? other = if other = place then none else session.held? other)
    (memory
      : next.process.memory
        = made.artifact.code?.elim session.process.memory session.process.memory.free)

/-- A place keeps what it holds, is emptied, or is the one that what a job makes is put into. -/
theorem Change.held?_cases {session next : Session} {command : Command}
    (change : session.Change command next) (place : Place)
    : next.held? place = session.held? place
      ∨ next.held? place = none
      ∨ ∃ job analysis made,
          session.job? command = some job
          ∧ job.place = place
          ∧ job.Makes session.process analysis made
          ∧ next.held? place = some made := by
  cases change with
  | keeps held _ => exact .inl (held place)
  | @fills job analysis made asked makes held _ =>
      rw [held]
      split
      · rename_i own
        exact .inr (.inr ⟨job, analysis, made, asked, own.symm, makes, rfl⟩)
      · exact .inl rfl
  | empties _ held _ =>
      rw [held]
      split
      · exact .inr (.inl rfl)
      · exact .inl rfl

namespace Step

variable {session : Session} {command : Command} {result : Session × Reply}
    (step : session.Step command result)

include step

/-- A unit takes a number whether it is compiled or refused. -/
theorem units
    : result.1.process.units = session.process.units + if command.buildsUnit then 1 else 0 := by
  have builds := session.isSome_job? command
  cases step with
  | keeps idle _ =>
      rw [idle] at builds
      simp [← builds]
  | refuses asked _ =>
      rw [asked] at builds
      simp [← builds, Process.takeUnit]
  | compiles _ _ | builds _ _ => exact Backend.units_occupy _ _
  | drops _ | releases _ => rfl

/-- What changes is one place and the memory of the code that it holds. -/
theorem change : session.Change command result.1 := by
  cases step with
  | keeps _ _ | refuses _ _ => exact .keeps (fun _ => rfl) rfl
  | compiles asked makes =>
      refine .fills asked makes ?_ makes.memory_occupy
      intro place
      cases asked
      cases place with
      | artifact number => rfl
      | function slot =>
          simp only [held?, function?, join_getElem?_append, Place.function.injEq]
          split <;> rfl
  | builds asked makes =>
      refine .fills asked makes ?_ makes.memory_occupy
      intro place
      cases asked
      cases place with
      | function slot => rfl
      | artifact number =>
          simp only [held?, artifact?, join_getElem?_append, Place.artifact.injEq]
  | @drops slot function found =>
      refine .empties (held?_function found) ?_ rfl
      intro place
      cases place with
      | artifact number => rfl
      | function other =>
          simp only [held?, function?, join_getElem?_set, Place.function.injEq,
            eq_comm (a := slot)]
          split <;> rfl
  | @releases number made found =>
      have held : session.held? (.artifact number) = some made := found
      refine .empties held ?_ rfl
      intro place
      cases place with
      | function slot => rfl
      | artifact other =>
          simp only [held?, artifact?, join_getElem?_set, Place.artifact.injEq,
            eq_comm (a := number)]

end Step

-----------------------------------------------------------------------------------------
-- Many commands
-----------------------------------------------------------------------------------------

@[simp] theorem after_nil (session : Session) : session.after [] = session := rfl

@[simp] theorem after_cons (session : Session) (command : Command) (rest : List Command)
    : session.after (command :: rest) = (session.step command).1.after rest :=
  rfl

theorem after_append (session : Session) (first second : List Command)
    : session.after (first ++ second) = (session.after first).after second := by
  induction first generalizing session with
  | nil => rfl
  | cons command rest ih => exact ih _

/-- What holds at the start and is kept by each command holds after all of them. -/
theorem after_induction {P : Session → Prop}
    (kept : ∀ session command, P session → P (session.step command).1) {start : Session}
    (initial : P start) (commands : List Command)
    : P (start.after commands) := by
  induction commands generalizing start with
  | nil => exact initial
  | cons command rest ih => exact ih (kept start command initial)

theorem units_after (start : Session) (commands : List Command)
    : (start.after commands).process.units
      = start.process.units + commands.countP Command.buildsUnit := by
  induction commands generalizing start with
  | nil => rfl
  | cons command rest ih =>
      rw [after_cons, ih, (start.isStep command).units, List.countP_cons]
      omega

end Session

end FormulaCompiler
