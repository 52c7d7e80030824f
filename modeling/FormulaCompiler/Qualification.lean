import FormulaCompiler.Identifier
import FormulaCompiler.Number.Literal
import FormulaCompiler.Text.Replace
import FormulaCompiler.Vocabulary

/-! Qualifying the names of a vocabulary in a formula, so that they lead into the library. The
formula goes to lower case first, and a recognized name gets its own spelling back.
-/

namespace FormulaCompiler

/-- How names are found in a formula: as whole words only, or wherever their letters stand, one name
after the other, in which case names that contain each other get mangled.
-/
inductive NameMatching where
  | tokens
  | substring
deriving DecidableEq, Repr

/-- The path that leads to a name of the library. -/
def libraryPath (name : String) : List Char :=
  Library.moduleName.toList ++ ':' :: ':' :: name.toList

namespace Qualification

/-- A piece of a formula: a number literal, a word, or a character that is part of neither. -/
inductive Piece where
  | number (text : List Char)
  | word (text : List Char)
  | other (c : Char)
deriving DecidableEq, Repr

/-- The text of a piece. -/
def Piece.text : Piece → List Char
  | .number text | .word text => text
  | .other c => [c]

/-- The piece that begins with (c), which (rest) follows. -/
def Piece.first (c : Char) (rest : List Char) : Piece :=
  if startsNumber c rest then .number (scanNumber (c :: rest)).text
  else if isIdentifierStart c then .word (c :: rest.takeWhile isIdentifierPart)
  else .other c

/-- Cuts a text into pieces. -/
def pieces : List Char → List Piece
  | [] => []
  | c :: rest =>
    let piece := Piece.first c rest
    piece :: pieces (rest.drop (piece.text.length - 1))
termination_by text => text.length
decreasing_by simp only [List.length_cons, List.length_drop]; omega

/-- A piece is taken from the front, whichever kind it is. -/
theorem Piece.first_isPrefix (c : Char) (rest : List Char) : (first c rest).text <+: c :: rest := by
  unfold first
  split
  · exact scanNumber_isPrefix _
  · split
    · exact List.cons_prefix_cons.mpr ⟨rfl, List.takeWhile_prefix _⟩
    · exact List.cons_prefix_cons.mpr ⟨rfl, List.nil_prefix⟩

/-- A piece takes some text, whichever kind it is. -/
theorem Piece.first_ne_nil (c : Char) (rest : List Char) : (first c rest).text ≠ [] := by
  unfold first
  split
  · rename_i start
    exact scanNumber_ne_nil start
  · split <;> simp [text]

/-- The pieces of a text make it up, by induction along the cutting. -/
theorem flatMap_pieces (text : List Char) : (pieces text).flatMap Piece.text = text := by
  fun_induction pieces text with
  | case1 => rfl
  | case2 c rest piece ih =>
    obtain ⟨behind, parts⟩ := Piece.first_isPrefix c rest
    have some_text := List.length_pos_iff.mpr (Piece.first_ne_nil c rest)
    have left : rest.drop (piece.text.length - 1) = behind := by
      have dropped := congrArg (List.drop piece.text.length) parts
      rw [List.drop_left] at dropped
      rw [dropped, ← List.drop_succ_cons (a := c), Nat.sub_add_cancel some_text]
    rw [List.flatMap_cons, ih, left]
    exact parts

/-- How a word is written again: in the spelling of the vocabulary if that has it, and with the
path to the library unless the word is already qualified.
-/
def spelling (vocabulary : Vocabulary) (qualified : Bool) (word : List Char) : List Char :=
  match vocabulary.canonical? (String.ofList word) with
  | some name => if qualified then name.toList else libraryPath name
  | none => word

/-- Writes pieces again, where (colons) colons stand right before them. Two of them qualify a
word that follows.
-/
def write (vocabulary : Vocabulary) (colons : Nat) : List Piece → List Char
  | [] => []
  | .number text :: rest => text ++ write vocabulary 0 rest
  | .word text :: rest => spelling vocabulary (2 ≤ colons) text ++ write vocabulary 0 rest
  | .other c :: rest => c :: write vocabulary (if c = ':' then colons + 1 else 0) rest

/-- Qualifies the words of a formula that the vocabulary has. -/
def byTokens (vocabulary : Vocabulary) (formula : List Char) : List Char :=
  write vocabulary 0 (pieces formula)

/-- Qualifies every name wherever its letters stand, in the order of the vocabulary. -/
def bySubstrings (vocabulary : Vocabulary) (formula : List Char) : List Char :=
  vocabulary.names.foldl
    (fun text name => replaceAll (lowercase name).toList (libraryPath name) text) formula

end Qualification

/-- The formula in lower case with the names of the vocabulary qualified. -/
def qualify (formula : String) (vocabulary : Vocabulary) (matching : NameMatching) : String :=
  let lowered := (lowercase formula).toList
  String.ofList <|
    match matching with
    | .tokens => Qualification.byTokens vocabulary lowered
    | .substring => Qualification.bySubstrings vocabulary lowered

end FormulaCompiler
