import FormulaCompiler.Main
import FormulaCompiler.Proofs.Folding
import FormulaCompiler.Proofs.ShuntingYard.Completeness
import FormulaCompiler.Number.Scientific
import FormulaCompiler.Session
import FormulaCompiler.Proofs.ShuntingYard.Soundness
import FormulaCompiler.Proofs.ShuntingYard.PostfixOrder
import FormulaCompiler.Proofs.CallKinds
import FormulaCompiler.Proofs.Linkage
import FormulaCompiler.Proofs.Backend.NativeCode
import FormulaCompiler.Proofs.Backend.Agreement
import FormulaCompiler.Proofs.Lexing.NumberEnds
import FormulaCompiler.Proofs.Lexing.Paths
import FormulaCompiler.Proofs.Lexing.Contents
import FormulaCompiler.Proofs.Qualification.Writing
import FormulaCompiler.Proofs.Qualification.Paths
import FormulaCompiler.Proofs.Qualification.Lexemes
import FormulaCompiler.Proofs.Qualification.Tokens
import FormulaCompiler.Proofs.Renaming
import FormulaCompiler.Proofs.Binding
import FormulaCompiler.Proofs.Meaning
import FormulaCompiler.Proofs.Lowercase
import FormulaCompiler.Proofs.Qualification.Names
import FormulaCompiler.Proofs.Qualification.Meaning
import FormulaCompiler.Proofs.Replacement
import FormulaCompiler.Proofs.Qualification.Repetition
import FormulaCompiler.Proofs.Qualification.Recovery
import FormulaCompiler.Proofs.Analysis
import FormulaCompiler.Proofs.Compilation
import FormulaCompiler.Proofs.Lexing.ErrorCodes
import FormulaCompiler.Proofs.Qualification.ErrorCodes
import FormulaCompiler.Proofs.ShuntingYard.Refusals
import FormulaCompiler.Proofs.Reports
import FormulaCompiler.Proofs.Escalation
import FormulaCompiler.Proofs.Acceptance
import FormulaCompiler.Proofs.ProblemKinds
import FormulaCompiler.Proofs.SingleExpression
import FormulaCompiler.Proofs.UnitSymbols
import FormulaCompiler.Proofs.Backend.Outcomes
import FormulaCompiler.Proofs.Session.Runs
import FormulaCompiler.Proofs.Session.Births
import FormulaCompiler.Proofs.Session.LiveCount
import FormulaCompiler.Proofs.Session.Isolation
import FormulaCompiler.Proofs.Session.Independence
import FormulaCompiler.Proofs.SpanRanges
import FormulaCompiler.Proofs.Lexing.Places
import FormulaCompiler.Proofs.Lexing.Coverage
import FormulaCompiler.Proofs.Lexing.Spellings
import FormulaCompiler.Proofs.Lexing.Boundaries
import FormulaCompiler.Proofs.Lexing.Standalone
import FormulaCompiler.Proofs.Lexing.LongestMatch
import FormulaCompiler.Proofs.Lexing.NumberPattern
import FormulaCompiler.Proofs.Lexing.LongestNumber
import FormulaCompiler.Proofs.Viability
import FormulaCompiler.Proofs.ShuntingYard.Runs
import FormulaCompiler.Proofs.ShuntingYard.Openings
import FormulaCompiler.Proofs.ShuntingYard.Blame
import FormulaCompiler.Proofs.Origins
import FormulaCompiler.Proofs.BlamedNames
import FormulaCompiler.Proofs.ReportSpans
import FormulaCompiler.Proofs.OneLine
import FormulaCompiler.Proofs.Transcript
import FormulaCompiler.Proofs.WellKinded
import FormulaCompiler.Proofs.FoldedForm
import FormulaCompiler.Proofs.LinkedCalls
import FormulaCompiler.Proofs.StackDiscipline
import FormulaCompiler.Proofs.BindingReports
import FormulaCompiler.Proofs.UnknownWords
import FormulaCompiler.Proofs.NameTable
import FormulaCompiler.Proofs.SignedNumbers
import FormulaCompiler.Proofs.TreeIdentity
import FormulaCompiler.Proofs.Warnings
import FormulaCompiler.Proofs.Qualification.Runs
import FormulaCompiler.Proofs.Qualification.Substrings
