import FormulaCompiler.Diagnostic
import FormulaCompiler.Identifier
import FormulaCompiler.Number.Literal

/-! A formula is cut into lexemes, each of which is a token or a problem. Nothing but blanks lies
between them, and what one of them is does not depend on the others.
-/

namespace FormulaCompiler

/-- A piece of a formula: a token with the text that writes it, or something that is no token. -/
inductive Lexeme where
  | accepted (token : Token) (text : String)
  | rejected (problem : Problem)
deriving DecidableEq

namespace Lexeme

/-- The token of a lexeme. -/
def token? : Lexeme → Option Token
  | .accepted token _ => some token
  | .rejected _ => none

/-- What there is to report about a lexeme. A literal beyond the largest double is still a token. -/
def problem? : Lexeme → Option Problem
  | .accepted (.number value) text => if value.isInf then some (.infiniteLiteral text) else none
  | .accepted _ _ => none
  | .rejected problem => some problem

/-- The characters that separate lexemes. -/
def isSeparator (c : Char) : Bool :=
  c = ' ' || c = '\t' || c = '\n' || c = '\r'

theorem isSeparator_iff {c : Char}
    : isSeparator c ↔ c = ' ' ∨ c = '\t' ∨ c = '\n' ∨ c = '\r' := by
  simp [isSeparator, or_assoc]

/-- The number at the start of a text and the text it takes. A word that is glued to a number
belongs to it and makes it malformed.
-/
def number (text : List Char) : Lexeme × List Char :=
  let scan := scanNumber text
  let glued := (text.drop scan.text.length).takeWhile isIdentifierPart
  let taken := scan.text ++ glued
  let malformed := rejected (.malformedNumber (String.ofList taken))
  if scan.wellFormed && glued.isEmpty then
    match Decimal.read? taken with
    | some decimal => (accepted (.number decimal.toFloat) (String.ofList taken), taken)
    | none => (malformed, taken)
  else
    (malformed, taken)

/-- The path at the start of a text and the text it takes. -/
def path (text : List Char) : Lexeme × List Char :=
  let scan := scanPath text
  let lexeme :=
    if scan.wellFormed then
      accepted (.name (String.ofList scan.text)) (String.ofList scan.text)
    else
      rejected .danglingSeparator
  (lexeme, scan.text)

/-- The lexeme that begins with (c), which (rest) follows and which is no separator, and the text
that the lexeme takes.
-/
def first (c : Char) (rest : List Char) : Lexeme × List Char :=
  if startsNumber c rest then number (c :: rest)
  else if isIdentifierStart c then path (c :: rest)
  else
    match Token.ofSymbol? c with
    | some token => (accepted token (String.singleton c), [c])
    | none => (rejected (.unexpectedCharacter c), [c])

/-- A number is taken from the front, and the word that is glued to it from what it leaves. -/
theorem number_isPrefix (text : List Char) : (number text).2 <+: text := by
  have taken := append_isPrefix_of_drop (scanNumber_isPrefix text)
    (List.takeWhile_prefix isIdentifierPart)
  unfold number
  dsimp only
  split
  · split <;> exact taken
  · exact taken

/-- A lexeme is taken from the front, whichever kind it is. -/
theorem first_isPrefix (c : Char) (rest : List Char) : (first c rest).2 <+: c :: rest := by
  unfold first
  split
  · exact number_isPrefix _
  · split
    · exact scanPath_isPrefix _
    · split <;> exact List.cons_prefix_cons.mpr ⟨rfl, List.nil_prefix⟩

/-- A lexeme takes some text, whichever kind it is. -/
theorem first_ne_nil (c : Char) (rest : List Char) : (first c rest).2 ≠ [] := by
  unfold first
  split
  · rename_i start
    have taken := scanNumber_ne_nil start
    unfold number
    dsimp only
    split
    · split <;> simp [taken]
    · simp [taken]
  · split
    · rename_i start
      exact scanPath_ne_nil start
    · split <;> simp

/-- What is left behind the first lexeme of a text. -/
theorem parts_of_first {c : Char} {rest taken : List Char} {lexeme : Lexeme}
    (found : first c rest = (lexeme, taken))
    : c :: rest = taken ++ rest.drop (taken.length - 1) := by
  have some := first_ne_nil c rest
  obtain ⟨behind, parts⟩ := first_isPrefix c rest
  rw [found] at some parts
  obtain ⟨d, more, rfl⟩ := List.exists_cons_of_ne_nil some
  obtain ⟨rfl, rfl⟩ := List.cons.inj parts
  exact congrArg (d :: more ++ ·) List.drop_left.symm

/-- The lexemes of a text that begins at (position). -/
def scanFrom (position : Nat) : List Char → List (Spanned Lexeme)
  | [] => []
  | c :: rest =>
    if isSeparator c then scanFrom (position + c.utf8Size) rest
    else
      let (lexeme, taken) := first c rest
      let length := byteLength taken
      ⟨lexeme, Span.ofLength position length⟩
        :: scanFrom (position + length) (rest.drop (taken.length - 1))
termination_by text => text.length
decreasing_by all_goals simp only [List.length_cons, List.length_drop]; omega

/-- The lexemes of a text. -/
def scan (text : String) : List (Spanned Lexeme) :=
  scanFrom 0 text.toList

end Lexeme

/-- A formula cut up: its tokens, and what there is to report about the cutting. -/
structure Tokens where
  tokens : List (Spanned Token)
  diagnostics : List Diagnostic

/-- Cuts a text into tokens. -/
def tokenize (text : String) : Tokens :=
  let lexemes := Lexeme.scan text
  { tokens := lexemes.filterMap fun lexeme =>
      lexeme.content.token?.map fun token => ⟨token, lexeme.span⟩
    diagnostics := lexemes.filterMap fun lexeme =>
      lexeme.content.problem?.map fun problem => { problem, span := lexeme.span } }

end FormulaCompiler
