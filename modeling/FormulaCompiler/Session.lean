import FormulaCompiler.Compiler

/-! A session gives commands to one compiler and keeps what they make: functions, artifacts and
entry points, each numbered in the order they were made. Numbers are never given again.
-/

namespace FormulaCompiler

/-- An artifact that was built by itself, with the symbol of its unit. -/
structure BuiltArtifact where
  symbol : String
  artifact : Artifact

/-- The state of a session. A place is empty once its function or artifact was given up. -/
structure Session where
  compiler : Compiler := {}
  functions : List (Option CompiledFunction) := []
  artifacts : List (Option BuiltArtifact) := []
  entries : List EntryPoint := []
  process : Process := {}

/-- The symbol that an entry point is looked up by. -/
inductive SymbolChoice where
  | own
  | ofArtifact (number : Nat)
  | text (symbol : String)
deriving DecidableEq, Repr

/-- The entry point that is run: one that was looked up before, or one made from an index. -/
inductive EntryChoice where
  | found (number : Nat)
  | interpreted (index : Nat)
deriving DecidableEq, Repr

/-- What a session can be told to do. -/
inductive Command where
  | setOptions (options : CompileOptions)
  | setBackend (backend? : Option Backend)
  | setVocabulary (vocabulary : Vocabulary)
  | reset
  | compile (formula : String)
  | invoke (slot : Nat) (xs : List Double)
  | source (slot : Nat)
  | describe (slot : Nat)
  | drop (slot : Nat)
  | build (backend : Backend) (body : String) (options : CompileOptions)
  | entry (artifact : Nat) (choice : SymbolChoice)
  | call (artifact : Nat) (choice : EntryChoice) (xs : List Double)
  | release (artifact : Nat)

/-- What a session answers. The last answer is for a number that stands for nothing any more, or
never did.
-/
inductive Reply where
  | options (options : CompileOptions)
  | compiler (compiler : Compiler)
  | vocabulary (vocabulary : Vocabulary)
  | compiled (slot : Nat) (function : CompiledFunction)
  | compileFailed (diagnostics : List Diagnostic)
  | values (values : List Double)
  | source (text : String)
  | function (function : CompiledFunction)
  | dropped
  | built (artifact : Nat) (symbol : String) (warnings : List Diagnostic)
  | buildFailed (diagnostics : List Diagnostic)
  | entry (number : Nat) (entry : EntryPoint)
  | noEntry
  | gone

namespace Session

/-- The function in a place. -/
def function? (session : Session) (slot : Nat) : Option CompiledFunction :=
  session.functions[slot]?.join

/-- The artifact in a place. -/
def artifact? (session : Session) (number : Nat) : Option BuiltArtifact :=
  session.artifacts[number]?.join

/-- How many functions and artifacts the session holds. -/
def held (session : Session) : Nat :=
  session.functions.countP (·.isSome) + session.artifacts.countP (·.isSome)

/-- Changes the compiler, for the formulas that are compiled from now on. -/
def withCompiler (session : Session) (compiler : Compiler) : Session :=
  { session with compiler }

/-- Compiles a formula into the next place for functions. -/
def compile (session : Session) (formula : String) : Session × Reply :=
  match session.compiler.compile formula session.process with
  | (.error diagnostics, process) => ({ session with process }, .compileFailed diagnostics)
  | (.ok function, process) =>
    ({ session with functions := session.functions ++ [some function], process },
      .compiled session.functions.length function)

/-- Answers about the function in a place. -/
def withFunction (session : Session) (slot : Nat) (reply : CompiledFunction → Reply)
    : Session × Reply :=
  (session, ((session.function? slot).map reply).getD .gone)

/-- Gives up a function, and its artifact with it. -/
def drop (session : Session) (slot : Nat) : Session × Reply :=
  match session.function? slot with
  | none => (session, .gone)
  | some function =>
    ({ session with
        functions := session.functions.set slot none
        process := session.process.release function.artifact.code? },
      .dropped)

/-- Gives a new unit directly to a backend. Its body is taken as it is. -/
def build (session : Session) (backend : Backend) (body : String) (options : CompileOptions)
    : Session × Reply :=
  let (number, process) := session.process.takeUnit
  let unit := CodeUnit.build number body options.returnType
  match backend.compile unit options process with
  | (.error diagnostics, process) => ({ session with process }, .buildFailed diagnostics)
  | (.ok compilation, process) =>
    let made := { symbol := unit.symbol, artifact := compilation.artifact }
    ({ session with artifacts := session.artifacts ++ [some made], process },
      .built session.artifacts.length unit.symbol compilation.warnings)

/-- The symbol that a choice stands for. -/
def symbol? (session : Session) (artifact : BuiltArtifact) : SymbolChoice → Option String
  | .own => some artifact.symbol
  | .ofArtifact number => (session.artifact? number).map (·.symbol)
  | .text symbol => some symbol

/-- Looks up an entry point of an artifact, and gives it the next number. -/
def entry (session : Session) (number : Nat) (choice : SymbolChoice) : Session × Reply :=
  match session.artifact? number with
  | none => (session, .gone)
  | some made =>
    match session.symbol? made choice with
    | none => (session, .gone)
    | some symbol =>
      match made.artifact.entryPoint? symbol with
      | none => (session, .noEntry)
      | some entry =>
        ({ session with entries := session.entries ++ [entry] },
          .entry session.entries.length entry)

/-- The entry point that a choice stands for. -/
def entryPoint? (session : Session) : EntryChoice → Option EntryPoint
  | .found number => session.entries[number]?
  | .interpreted index => some (.interpreted index)

/-- Runs an entry point on an artifact, whether it belongs to it or not. -/
def call (session : Session) (number : Nat) (choice : EntryChoice) (xs : List Double)
    : Session × Reply :=
  match session.artifact? number, session.entryPoint? choice with
  | some made, some entry => (session, .values (xs.map (made.artifact.call entry)))
  | _, _ => (session, .gone)

/-- Gives up an artifact. Entry points into it are kept. -/
def release (session : Session) (number : Nat) : Session × Reply :=
  match session.artifact? number with
  | none => (session, .gone)
  | some made =>
    ({ session with
        artifacts := session.artifacts.set number none
        process := session.process.release made.artifact.code? },
      .dropped)

/-- Carries out one command. -/
def step (session : Session) : Command → Session × Reply
  | .setOptions options =>
    (session.withCompiler { session.compiler with options }, .options options)
  | .setBackend backend? =>
    let backend := backend?.getD session.compiler.backend
    let compiler := { session.compiler with backend }
    (session.withCompiler compiler, .compiler compiler)
  | .setVocabulary vocabulary =>
    (session.withCompiler { session.compiler with vocabulary }, .vocabulary vocabulary)
  | .reset => (session.withCompiler {}, .compiler {})
  | .compile formula => session.compile formula
  | .invoke slot xs => session.withFunction slot fun function => .values (xs.map function.invoke)
  | .source slot => session.withFunction slot fun function => .source function.source
  | .describe slot => session.withFunction slot .function
  | .drop slot => session.drop slot
  | .build backend body options => session.build backend body options
  | .entry number choice => session.entry number choice
  | .call number choice xs => session.call number choice xs
  | .release number => session.release number

/-- Carries out commands in order. Each answer comes with the number of artifacts alive after it. -/
def run (session : Session) : List Command → Session × List (Reply × Nat)
  | [] => (session, [])
  | command :: rest =>
    let (next, reply) := session.step command
    let (last, replies) := next.run rest
    (last, (reply, next.process.live) :: replies)

end Session

end FormulaCompiler
