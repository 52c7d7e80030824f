import Mathlib.Data.List.TakeWhile
import FormulaCompiler.Proofs.Lexing.NumberPattern
import FormulaCompiler.Proofs.ReportSpans

/-! What is shown on one line. The text of a double has no line feed in it, and neither has a
report: all that it quotes was cut from a formula, and a line feed is no part of what is cut.
-/

namespace FormulaCompiler

/-- Whether a text can be shown on one line. -/
def OneLine (text : String) : Prop :=
  '\n' ∉ text.toList

instance (text : String) : Decidable (OneLine text) :=
  inferInstanceAs (Decidable (¬ '\n' ∈ text.toList))

theorem OneLine.append {first second : String} (front : OneLine first) (rear : OneLine second)
    : OneLine (first ++ second) := by
  rw [OneLine, String.toList_append, List.mem_append]
  exact not_or.mpr ⟨front, rear⟩

theorem OneLine.between {before text behind : String} (front : OneLine before)
    (middle : OneLine text) (rear : OneLine behind)
    : OneLine (before ++ text ++ behind) :=
  (front.append middle).append rear

theorem OneLine.of_append {first second : String} (joined : OneLine (first ++ second))
    : OneLine first ∧ OneLine second := by
  rw [OneLine, String.toList_append, List.mem_append] at joined
  exact not_or.mp joined

theorem OneLine.ofList {text : List Char} (unbroken : '\n' ∉ text)
    : OneLine (String.ofList text) := by
  rwa [OneLine, String.toList_ofList]

theorem not_mem_takeWhile {α : Type} {p : α → Bool} {item : α} (fails : ¬p item) (items : List α)
    : item ∉ items.takeWhile p :=
  fun listed => fails (List.mem_takeWhile_imp listed)

-----------------------------------------------------------------------------------------
-- Numbers
-----------------------------------------------------------------------------------------

theorem unbroken_toDigits (number : Nat) : '\n' ∉ Nat.toDigits 10 number :=
  fun listed => absurd (Nat.isDigit_of_mem_toDigits (by decide) (by decide) listed) (by decide)

theorem oneLine_toString (number : Nat) : OneLine (toString number) := by
  rw [Nat.toString_eq_ofList_toDigits]
  exact .ofList (unbroken_toDigits number)

theorem DecimalDigits.unbroken_positional (decimal : DecimalDigits)
    : '\n' ∉ decimal.positional := by
  have digits := unbroken_toDigits decimal.digits
  unfold positional
  dsimp only
  split
  · simp [digits]
  · split
    · simp only [List.mem_append, List.mem_cons, not_or]
      exact ⟨mt List.mem_of_mem_take digits, by decide, mt List.mem_of_mem_drop digits⟩
    · simp [digits]

theorem unbroken_signText (negative : Bool) : '\n' ∉ signText negative := by
  cases negative <;> decide

theorem oneLine_floatText (value : Float) : OneLine (floatText value) := by
  unfold floatText
  split
  · decide
  · rename_i negative _
    cases negative <;> decide
  · refine .ofList ?_
    rw [List.mem_append, not_or]
    refine ⟨unbroken_signText _, ?_⟩
    split
    · decide
    · exact DecimalDigits.unbroken_positional _

-----------------------------------------------------------------------------------------
-- What is cut from a text
-----------------------------------------------------------------------------------------

namespace Lexeme

theorem unbroken_scanNumber (text : List Char) : '\n' ∉ (scanNumber text).text :=
  fun member => absurd (NumberPattern.mem_letters_of_scanNumber member) (by decide)

/-- By induction over the length of the text, as a double colon is taken as one. -/
theorem unbroken_scanPath (text : List Char) : '\n' ∉ (scanPath text).text := by
  induction count : text.length using Nat.strongRecOn generalizing text with
  | ind count ih =>
    subst count
    cases text with
    | nil => exact List.not_mem_nil
    | cons c rest =>
      unfold scanPath
      split
      · rename_i part
        have other : '\n' ≠ c := by
          rintro rfl
          exact absurd part (by decide)
        simp [Scan.behind, other, ih _ (Nat.lt_succ_self _) rest rfl]
      · split
        · rename_i next _
          split
          · have shorter : next.length < (':' :: ':' :: next).length := by
              simp only [List.length_cons]
              omega
            simp [Scan.behind, ih _ shorter next rfl]
          · decide
        · exact List.not_mem_nil

theorem unbroken_first {c : Char} {rest taken : List Char} {lexeme : Lexeme}
    (plain : ¬isSeparator c) (found : first c rest = (lexeme, taken))
    : '\n' ∉ taken := by
  unfold first at found
  split at found
  · have same : taken = (number (c :: rest)).2 := congrArg Prod.snd found.symm
    have glued (rest : List Char) : '\n' ∉ rest.takeWhile isIdentifierPart :=
      not_mem_takeWhile (by decide) rest
    have all := unbroken_scanNumber (c :: rest)
    subst same
    unfold number
    dsimp only
    split
    · split <;> simp [all, glued]
    · simp [all, glued]
  · split at found
    · have same : taken = (scanPath (c :: rest)).text := congrArg Prod.snd found.symm
      rw [same]
      exact unbroken_scanPath (c :: rest)
    · have other : '\n' ≠ c := by
        rintro rfl
        exact absurd (by decide) plain
      have same : taken = [c] := by
        split at found <;> exact congrArg Prod.snd found.symm
      simp [same, other]

end Lexeme

-----------------------------------------------------------------------------------------
-- What is quoted
-----------------------------------------------------------------------------------------

/-- The texts that the wording of a problem quotes. -/
def Problem.quotes : Problem → List String
  | .unexpectedCharacter c => [String.singleton c]
  | .malformedNumber text | .infiniteLiteral text => [text]
  | .unexpectedOperand token => [token.display]
  | .unknownName path | .wrongArgumentCount path _ _ | .notCallable path
  | .functionAsValue path => [path]
  | .unknownMember module member => [module, member]
  | .unknownModule module => [module]
  | .memberNotFunction name => [name]
  | .missingEntryPoint symbol => [symbol]
  | .other _ code message => [code, message]
  | .danglingSeparator | .missingOperand _ | .unmatchedClose | .unclosedOpen | .strayComma
  | .notOneExpression | .zeroDivisor => []

/-- Whether all that a problem quotes can be shown on one line. -/
def Problem.QuotesLines (problem : Problem) : Prop :=
  ∀ text ∈ problem.quotes, OneLine text

theorem Problem.QuotesLines.code {problem : Problem} (quotes : problem.QuotesLines)
    : OneLine problem.code := by
  cases problem with
  | other _ code message => exact quotes code List.mem_cons_self
  | _ =>
      rw [Problem.code]
      decide

theorem OperandPlace.oneLine_text (place : OperandPlace) : OneLine place.text := by
  cases place with
  | beforeOperator op => cases op <;> decide
  | _ => decide

theorem Problem.QuotesLines.message {problem : Problem} (quotes : problem.QuotesLines)
    : OneLine problem.message := by
  cases problem with
  | danglingSeparator | unmatchedClose | unclosedOpen | strayComma | notOneExpression
  | zeroDivisor =>
      unfold Problem.message
      dsimp only
      decide
  | missingOperand place =>
      have words : OneLine "expected an expression " := by decide
      unfold Problem.message
      dsimp only
      exact words.append place.oneLine_text
  | unexpectedCharacter c | malformedNumber text =>
      unfold Problem.message
      dsimp only
      exact .append (by decide) (quotes _ List.mem_cons_self)
  | infiniteLiteral _ | unexpectedOperand _ | unknownName _ | unknownModule _ | notCallable _
  | functionAsValue _ | memberNotFunction _ | missingEntryPoint _ =>
      unfold Problem.message
      dsimp only
      exact .between (by decide) (quotes _ List.mem_cons_self) (by decide)
  | unknownMember module member =>
      have front := quotes module List.mem_cons_self
      have rear := quotes member (List.mem_cons_of_mem _ List.mem_cons_self)
      have begun : OneLine ("module '" ++ module ++ "' has no member named '") :=
        .between (by decide) front (by decide)
      unfold Problem.message
      dsimp only
      exact begun.between rear (by decide)
  | wrongArgumentCount path expected supplied =>
      have plural : OneLine (if expected = 1 then "" else "s") := by split <;> decide
      have called : OneLine ("function '" ++ path ++ "' takes ") :=
        .between (by decide) (quotes path List.mem_cons_self) (by decide)
      have noun : OneLine " argument" := by decide
      have but : OneLine " but " := by decide
      have given := (called.between (oneLine_toString expected) noun).between plural but
      unfold Problem.message
      dsimp only
      exact given.between (oneLine_toString supplied) (by decide)
  | other severity code message =>
      exact quotes message (List.mem_cons_of_mem _ List.mem_cons_self)

theorem Diagnostic.oneLine_display {report : Diagnostic} (quotes : report.problem.QuotesLines)
    : OneLine report.display := by
  have mark : OneLine (if report.escalated then " [warning treated as error]" else "") := by
    split <;> decide
  have severity : OneLine report.severity.text := by cases report.severity <;> decide
  have blank : OneLine " " := by decide
  have colon : OneLine ": " := by decide
  have close : OneLine ")" := by decide
  have titled := severity.between blank quotes.code
  have worded := titled.between colon quotes.message
  have start : OneLine ("(at " ++ toString report.span.start ++ "..") :=
    .between (by decide) (oneLine_toString _) (by decide)
  have place := start.between (oneLine_toString report.span.stop) close
  exact (worded.append blank).append (place.append mark)

-----------------------------------------------------------------------------------------
-- Pieces of a text
-----------------------------------------------------------------------------------------

namespace Lexeme

variable {text : String}

/-- A lexeme quotes the text that it takes. -/
theorem quotes_of_first {c : Char} {rest taken : List Char} {lexeme : Lexeme} {problem : Problem}
    (found : first c rest = (lexeme, taken)) (reported : lexeme.problem? = some problem)
    : ∀ quoted ∈ problem.quotes, quoted = String.ofList taken := by
  unfold first at found
  split at found
  · have malformed (other : List Char)
        : ∀ quoted ∈ (Problem.malformedNumber (String.ofList other)).quotes,
            quoted = String.ofList other :=
      fun quoted listed => List.mem_singleton.mp listed
    unfold number at found
    dsimp only at found
    split at found
    · split at found <;> cases found
      · dsimp only [problem?] at reported
        split at reported <;> cases reported
        exact fun quoted listed => List.mem_singleton.mp listed
      · cases reported
        exact malformed _
    · cases found
      cases reported
      exact malformed _
  · split at found
    · unfold path at found
      dsimp only at found
      split at found <;> cases found <;> cases reported
      exact nofun
    · split at found
      · rename_i token symbol
        cases found
        cases token with
        | number value => cases Token.spelling_of_ofSymbol? symbol
        | _ => cases reported
      · cases found
        cases reported
        exact fun quoted listed => List.mem_singleton.mp listed

theorem quotesLines_of_mem_diagnostics {report : Diagnostic}
    (listed : report ∈ (tokenize text).diagnostics)
    : report.problem.QuotesLines := by
  obtain ⟨⟨content, span⟩, member, reported⟩ := List.mem_filterMap.mp listed
  obtain ⟨problem, found, rfl⟩ := Option.map_eq_some_iff.mp reported
  obtain ⟨before, c, rest, taken, behind, -, plain, cut, -⟩ := (cuts_scan text).exists_taken member
  intro quoted quotes
  rw [quotes_of_first cut found quoted quotes]
  exact .ofList (unbroken_first plain cut)

theorem oneLine_spelling {token : Spanned Token} (listed : token ∈ (tokenize text).tokens)
    {spelling : String} (known : token.content.spelling? = some spelling)
    : OneLine spelling := by
  obtain ⟨c, rest, taken, written, plain, cut, -, same⟩ := exists_piece listed
  rw [← same spelling known]
  exact .ofList (unbroken_first plain cut)

theorem oneLine_display_of_mem_tokens {token : Spanned Token}
    (listed : token ∈ (tokenize text).tokens)
    : OneLine token.content.display := by
  obtain ⟨content, span⟩ := token
  cases content with
  | number value => exact .append (by decide) (oneLine_floatText value)
  | name path =>
      exact .between (by decide) (oneLine_spelling listed rfl) (by decide)
  | operator op =>
      dsimp only
      cases op <;> decide
  | openParen | closeParen | comma =>
      dsimp only
      decide

end Lexeme

-----------------------------------------------------------------------------------------
-- The reports of a unit
-----------------------------------------------------------------------------------------

open ShuntingYard

theorem quotesLines_of_postfixOrder {text : String} {stop : Nat} {report : Diagnostic}
    (refused : postfixOrder (tokenize text).tokens stop = .error report)
    : report.problem.QuotesLines := by
  rcases refused_cases refused with
    ⟨before, token, behind, reached, split, joint, ran, blamed⟩ | ⟨reached, ran, ended⟩
  · have listed : token ∈ (tokenize text).tokens := by
      rw [split]
      exact List.mem_append_right before List.mem_cons_self
    cases refusal_of_initial ran blamed with
    | unexpectedOperand _ _ =>
        exact List.forall_mem_singleton.mpr (Lexeme.oneLine_display_of_mem_tokens listed)
    | missingOperand _ | strayComma _ _ | unmatched _ _ _ => exact nofun
  · cases refusal_of_finish ended with
    | missingOperand _ | unclosed _ _ => exact nofun

/-- A problem with a name that can be shown on one line quotes no more than the name. -/
theorem Problem.Blames.quotesLines {problem : Problem} {path : String}
    (blames : problem.Blames path) (line : OneLine path)
    : problem.QuotesLines := by
  cases problem with
  | unknownName _ | wrongArgumentCount _ _ _ | notCallable _ | functionAsValue _ =>
      cases blames
      exact List.forall_mem_singleton.mpr line
  | unknownMember module member =>
      cases blames
      obtain ⟨front, rear⟩ := line.of_append
      exact List.forall_mem_cons.mpr ⟨front.of_append.1, List.forall_mem_singleton.mpr rear⟩
  | unknownModule module =>
      obtain ⟨rest, rfl⟩ := blames
      exact List.forall_mem_singleton.mpr line.of_append.1.of_append.1
  | _ => exact absurd blames id

theorem Grammar.Origin.mem_of_path? {item : PostfixItem} {start : List (Spanned Token)}
    {path : String} (origin : Origin item start) (named : item.content.path? = some path)
    : ∃ span, ⟨.name path, span⟩ ∈ start := by
  cases origin with
  | number | negate | operator => cases named
  | name _ | call _ =>
      cases named
      exact ⟨_, List.mem_cons_self⟩

theorem CodeUnit.Finds.quotesLines {unit : CodeUnit} {report : Diagnostic}
    (finds : unit.Finds report)
    : report.problem.QuotesLines := by
  cases finds with
  | cutting listed => exact Lexeme.quotesLines_of_mem_diagnostics listed
  | order refused => exact quotesLines_of_postfixOrder refused
  | binding reads listed =>
      obtain ⟨item, start, within, origin, -, division | ⟨path, named, blames⟩⟩ :=
        exists_origin reads listed
      · rw [division]
        exact nofun
      · obtain ⟨span, member⟩ := origin.mem_of_path? named
        exact blames.quotesLines (Lexeme.oneLine_spelling (within.subset member) rfl)

/-- Each report of an analysis is shown on one line. -/
theorem CodeUnit.oneLine_of_mem_reportsOf {unit : CodeUnit} {options : CompileOptions}
    {report : Diagnostic} (listed : report ∈ Analysis.reportsOf (unit.analyze options))
    : OneLine report.display := by
  obtain ⟨found, finds, same, -⟩ := exists_found_of_mem_reportsOf listed
  refine Diagnostic.oneLine_display ?_
  rw [same]
  exact finds.quotesLines

end FormulaCompiler
