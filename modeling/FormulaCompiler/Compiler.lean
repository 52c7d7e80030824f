import FormulaCompiler.Backend

/-! The compiler takes a formula through all phases, from its text to a function that can be called.
-/

namespace FormulaCompiler

/-- A function made from a formula, which keeps its artifact alive. -/
structure CompiledFunction where
  name : String
  source : String
  artifact : Artifact
  entry : EntryPoint
  warnings : List Diagnostic

namespace CompiledFunction

/-- The value of a function. Code is run without asking the artifact whether it is its own. -/
def invoke (function : CompiledFunction) (x : Double) : Double :=
  match function.entry with
  | .native code => function.artifact.run code x
  | entry => function.artifact.call entry x

/-- A function as it is shown. Addresses are left out. -/
def display (function : CompiledFunction) : String :=
  let entry := match function.entry with
    | .native _ => "Native(NativeCode(0x))"
    | .interpreted index => s!"Interpreted({index})"
  s!"CompiledFunction \x7b name: \"{function.name}\", entry: {entry}, "
    ++ s!"warnings: {function.warnings.length} \x7d"

end CompiledFunction

/-- A configuration to compile formulas with. -/
structure Compiler where
  vocabulary : Vocabulary := .standard
  backend : Backend := .native
  options : CompileOptions := {}

namespace Compiler

/-- A compiler as it is shown. -/
def display (compiler : Compiler) : String :=
  s!"Compiler \x7b vocabulary: {compiler.vocabulary.names.length}, "
    ++ s!"backend: \"{compiler.backend.name}\", options: {compiler.options.display} \x7d"

/-- Finds the function of a compiled unit. An artifact without it is given up at once. -/
def enter (unit : CodeUnit) (compilation : Compilation) (process : Process)
    : Except (List Diagnostic) CompiledFunction × Process :=
  match compilation.artifact.entryPoint? unit.symbol with
  | some entry =>
    (.ok {
      name := unit.symbol
      source := unit.render
      artifact := compilation.artifact
      entry
      warnings := compilation.warnings
    }, process)
  | none =>
    let stop := byteLength unit.body.toList
    (.error (compilation.warnings
      ++ [{ problem := .missingEntryPoint unit.symbol, span := ⟨0, stop⟩ }]),
      process.release compilation.artifact.code?)

/-- Compiles a formula of one variable. The unit takes its number even where compiling fails, and
the reports of a failure are in the order they were found.
-/
def compile (compiler : Compiler) (formula : String) (process : Process)
    : Except (List Diagnostic) CompiledFunction × Process :=
  let options := compiler.options
  let expression := qualify formula compiler.vocabulary options.matching
  let (number, process) := process.takeUnit
  let unit := CodeUnit.build number expression options.returnType
  match compiler.backend.compile unit options process with
  | (.error diagnostics, process) => (.error diagnostics, process)
  | (.ok compilation, process) => enter unit compilation process

end Compiler

end FormulaCompiler
