import FormulaCompiler.Proofs.LibraryNames
import FormulaCompiler.Proofs.Qualification.ErrorCodes

/-! The identifier runs of a formula, and names of which the letters stand nowhere else. A formula
is scanned into runs of identifiers, numbers and other characters. A number is scanned as a whole,
so the mark of its exponent is no identifier run.
-/

namespace FormulaCompiler

theorem IsWord.ne_nil {word : List Char} (isWord : IsWord word) : word ≠ [] := by
  rintro rfl
  cases isWord.1

/-- No identifier begins where another kind of character stands. -/
theorem IsWord.not_isPrefix_cons {word : List Char} (isWord : IsWord word) {c : Char}
    (noWord : ¬isIdentifierStart c) (rest : List Char)
    : ¬word <+: c :: rest := by
  obtain ⟨d, more, rfl⟩ := List.exists_cons_of_ne_nil isWord.ne_nil
  intro begins
  exact noWord ((List.cons_prefix_cons.mp begins).1 ▸ isWord.1)

/-- Going to lower case keeps what an identifier may begin and go on with. -/
theorem isIdentifier_toLower {c : Char} (ascii : c.toNat < 0x80)
    : (isIdentifierStart c → isIdentifierStart c.toLower)
      ∧ (isIdentifierPart c → isIdentifierPart c.toLower) :=
  forall_of_ascii c ascii (by decide)

/-- Identifiers are of ASCII, so their characters go to lower case one by one. -/
theorem isWord_lowercase {name : String} (identifier : isIdentifier name)
    : IsWord (lowercase name).toList := by
  obtain ⟨start, parts⟩ := isWord_iff_isIdentifier.mpr identifier
  have ascii (c : Char) (member : c ∈ name.toList) :=
    Library.lt_of_isIdentifierPart (parts c member)
  have noSigma : 'Σ' ∉ name.toList := fun member => absurd (parts _ member) (by decide)
  have lowered : (lowercase name).toList = name.toList.map Char.toLower := by
    rw [lowercase, String.toList_ofList, lowercaseAfter_eq_flatMap [] noSigma,
      List.map_eq_flatMap]
    exact List.flatMap_congr fun c member => if_pos (ascii c member)
  rw [lowered]
  constructor
  · cases letters : name.toList with
    | nil =>
        rw [letters] at start
        cases start
    | cons c rest =>
        rw [letters] at start ascii
        exact (isIdentifier_toLower (ascii c List.mem_cons_self)).1 start
  · intro c member
    obtain ⟨d, listed, rfl⟩ := List.mem_map.mp member
    exact (isIdentifier_toLower (ascii d listed)).2 (parts d listed)

namespace Qualification

open Lexeme

-----------------------------------------------------------------------------------------
-- Runs
-----------------------------------------------------------------------------------------

/-- The words among pieces, and where they begin if the pieces begin at (place). -/
def runsFrom (place : Nat) : List Piece → List (Nat × List Char)
  | [] => []
  | .word text :: rest => (place, text) :: runsFrom (place + text.length) rest
  | piece :: rest => runsFrom (place + piece.text.length) rest

/-- The identifier runs of a text, and at how many characters from its start they begin. -/
def runs (text : List Char) : List (Nat × List Char) :=
  runsFrom 0 (pieces text)

example : runs "1.e+5*e".toList = [(6, ['e'])] := by decide +kernel

theorem le_of_mem_runsFrom {start place : Nat} {run : List Char} {parts : List Piece}
    (listed : (place, run) ∈ runsFrom start parts)
    : start ≤ place := by
  induction parts generalizing start with
  | nil => cases listed
  | cons piece rest ih =>
      cases piece with
      | number text | other c => exact Nat.le_of_add_right_le (ih listed)
      | word text =>
          rcases List.mem_cons.mp listed with same | later
          · cases same
            exact Nat.le_refl _
          · exact Nat.le_of_add_right_le (ih later)

/-- A run of some pieces is the first one of them, or one of those behind it. -/
theorem cases_mem_runsFrom {start place : Nat} {run : List Char} {piece : Piece}
    {rest : List Piece} (listed : (place, run) ∈ runsFrom start (piece :: rest))
    : place = start ∧ piece = .word run
      ∨ (place, run) ∈ runsFrom (start + piece.text.length) rest := by
  cases piece with
  | number text | other c => exact .inr listed
  | word text =>
      rcases List.mem_cons.mp listed with same | later
      · cases same
        exact .inl ⟨rfl, rfl⟩
      · exact .inr later

-----------------------------------------------------------------------------------------
-- Names that stand alone
-----------------------------------------------------------------------------------------

/-- Whether a name stands alone in a text: wherever its letters do, they are a whole identifier run
that no double colon goes right before.
-/
def StandsAlone (key text : List Char) : Prop :=
  ∀ place, key <+: text.drop place → (place, key) ∈ runs text ∧ ¬[':', ':'] <:+ text.take place

/-- Only places in the text are to be looked at. -/
theorem standsAlone_of_lt {key text : List Char} (some : key ≠ [])
    (within
      : ∀ place < text.length, key <+: text.drop place
          → (place, key) ∈ runs text ∧ ¬[':', ':'] <:+ text.take place)
    : StandsAlone key text := by
  intro place occurs
  refine within place (Nat.lt_of_not_le fun beyond => some ?_) occurs
  rwa [List.drop_eq_nil_of_le beyond, List.prefix_nil] at occurs

/-- Whether a name stands alone in pieces that follow a text. -/
def StandsAloneBehind (key before : List Char) (parts : List Piece) : Prop :=
  ∀ place, key <+: (parts.flatMap Piece.text).drop place
    → (before.length + place, key) ∈ runsFrom before.length parts
      ∧ ¬[':', ':'] <:+ before ++ (parts.flatMap Piece.text).take place

/-- How many colons stand right before what follows a piece. -/
def Piece.colonsBehind (colons : Nat) : Piece → Nat
  | .other c => if c = ':' then colons + 1 else 0
  | _ => 0

/-- Whether a piece leaves a name alone: where it occurs in the piece, it is all of it, and (colons)
colons right before do not qualify it.
-/
def Piece.LeavesAlone (key : List Char) (colons : Nat) (piece : Piece) : Prop :=
  key <:+: piece.text → piece = .word key ∧ colons < 2

/-- Whether every piece leaves a name alone, where (colons) colons stand right before the first. -/
def AloneIn (key : List Char) : Nat → List Piece → Prop
  | _, [] => True
  | colons, piece :: rest =>
    piece.LeavesAlone key colons ∧ AloneIn key (piece.colonsBehind colons) rest

theorem Piece.replicate_colonsBehind {colons : Nat} {before : List Char}
    (colonned : List.replicate colons ':' <:+ before) (piece : Piece)
    : List.replicate (piece.colonsBehind colons) ':' <:+ before ++ piece.text := by
  cases piece with
  | number text | word text => exact List.nil_suffix
  | other c =>
      rw [colonsBehind]
      split
      · rename_i colon
        obtain ⟨front, rfl⟩ := colonned
        exact ⟨front, by rw [colon, List.replicate_succ', List.append_assoc]; rfl⟩
      · exact List.nil_suffix

namespace StandsAloneBehind

variable {key before : List Char} {piece : Piece} {rest : List Piece}
  (alone : StandsAloneBehind key before (piece :: rest)) (some : key ≠ [])

include alone some

theorem later : StandsAloneBehind key (before ++ piece.text) rest := by
  intro place occurs
  have whole := alone (piece.text.length + place)
  rw [List.flatMap_cons, List.drop_length_add_append, List.take_length_add_append,
    ← List.append_assoc, ← Nat.add_assoc, ← List.length_append] at whole
  obtain ⟨listed, unqualified⟩ := whole occurs
  refine ⟨?_, unqualified⟩
  rcases cases_mem_runsFrom listed with ⟨same, rfl⟩ | later
  · have taken := List.length_pos_iff.mpr some
    simp only [List.length_append, Piece.text] at same
    omega
  · rwa [List.length_append] at later ⊢

theorem leavesAlone {colons : Nat} (colonned : List.replicate colons ':' <:+ before)
    : piece.LeavesAlone key colons := by
  rintro ⟨front, back, parts⟩
  have occurs : key <+: ((piece :: rest).flatMap Piece.text).drop front.length := by
    rw [List.flatMap_cons, ← parts, List.append_assoc, List.append_assoc, List.drop_left]
    exact List.prefix_append _ _
  obtain ⟨listed, unqualified⟩ := alone front.length occurs
  rcases cases_mem_runsFrom listed with ⟨same, rfl⟩ | later
  · have first : front.length = 0 := Nat.add_left_cancel same
    rw [first, List.take_zero, List.append_nil] at unqualified
    refine ⟨rfl, Nat.lt_of_not_le fun two => unqualified (.trans ?_ colonned)⟩
    obtain ⟨more, rfl⟩ := Nat.exists_eq_add_of_le' two
    exact ⟨List.replicate more ':', by rw [← List.replicate_append_replicate]; rfl⟩
  · have taken := List.length_pos_iff.mpr some
    have beyond := le_of_mem_runsFrom later
    have whole := congrArg List.length parts
    simp only [List.length_append] at whole
    omega

end StandsAloneBehind

/-- By induction over the pieces: the first leaves the name alone, and goes before the others. -/
theorem StandsAloneBehind.aloneIn {key before : List Char} {colons : Nat} {parts : List Piece}
    (alone : StandsAloneBehind key before parts) (some : key ≠ [])
    (colonned : List.replicate colons ':' <:+ before)
    : AloneIn key colons parts := by
  induction parts generalizing before colons with
  | nil => trivial
  | cons piece rest ih =>
      exact ⟨alone.leavesAlone some colonned,
        ih (alone.later some) (piece.replicate_colonsBehind colonned)⟩

/-- A name that stands alone in a text is in its pieces as a whole word or not at all. -/
theorem StandsAlone.aloneIn {key text : List Char} (alone : StandsAlone key text)
    (some : key ≠ [])
    : AloneIn key 0 (pieces text) := by
  have behind : StandsAloneBehind key [] (pieces text) := by
    intro place occurs
    rw [flatMap_pieces] at occurs ⊢
    rw [List.length_nil, Nat.zero_add]
    exact alone place occurs
  exact behind.aloneIn some List.nil_suffix

-----------------------------------------------------------------------------------------
-- Numbers before words
-----------------------------------------------------------------------------------------

/-- Whether no number has a word right behind it. -/
def Unglued (parts : List Piece) : Prop :=
  GluedWords (fun _ _ => False) parts

theorem unglued_number {number text : List Char}
    : Unglued (.number number :: pieces text)
      ↔ ¬startsIdentifier text ∧ Unglued (pieces text) := by
  unfold Unglued
  by_cases start : startsIdentifier text
  · obtain ⟨word, rest, cut⟩ := exists_pieces_eq_word.mpr start
    rw [cut, gluedWords_number_word, false_and]
    exact iff_of_false id fun both => both.1 start
  · have plain : ∀ word rest, pieces text ≠ .word word :: rest :=
      fun word rest same => start (exists_pieces_eq_word.mp ⟨word, rest, same⟩)
    rw [gluedWords_number plain, and_iff_right start]

/-- A word behind a number makes it malformed, so one that is accepted has none. -/
theorem unglued_of_accepted_number {c : Char} {rest : List Char} (start : startsNumber c rest)
    (accepted : ∀ problem, rejected problem ∉ contents (c :: rest))
    (later
      : ∀ behind, behind.length < (c :: rest).length
          → (∀ problem, rejected problem ∉ contents behind) → Unglued (pieces behind))
    : Unglued (pieces (c :: rest)) := by
  have plain : ¬isSeparator c :=
    fun separates => (plain_of_isSeparator separates rest).1 start
  obtain ⟨more, behind, wellFormed, rfl, scanned, -, -, cut⟩ := cut_number (.ofNames []) start
  have found : first c (more ++ behind) = number (c :: more ++ behind) := if_pos start
  have ends : ∀ e, behind.head? = some e → ¬isIdentifierPart e := by
    intro e head part
    obtain ⟨problem, taken, refused⟩ := number_of_glued scanned head part
    obtain ⟨others, same⟩ := contents_rejected plain (found.trans refused)
    exact accepted problem (same ▸ List.mem_cons_self)
  rw [contents_first plain (found.trans (number_of_unglued scanned ends)) rfl] at accepted
  rw [cut, unglued_number]
  constructor
  · intro glued
    obtain ⟨e, next, rfl, letter⟩ := ne_nil_of_startsIdentifier glued
    exact ends e rfl (isIdentifierPart_of_start letter)
  · refine later behind ?_ fun problem listed => accepted problem (List.mem_cons_of_mem _ listed)
    simp only [List.length_cons, List.length_append]
    omega

/-- A path that is accepted is cut into words, and its words go before what is behind it. -/
theorem unglued_of_accepted_path {text : List Char} (start : startsIdentifier text)
    (accepted : ∀ problem, rejected problem ∉ contents text)
    (later
      : ∀ behind, behind.length < text.length
          → (∀ problem, rejected problem ∉ contents behind) → Unglued (pieces behind))
    : Unglued (pieces text) := by
  obtain ⟨first, words, rest, rfl, word, more, ends⟩ := exists_words text start
  have scanned := scanPath_words word more rest
  rw [Unglued, gluedWords_words word more ends.notPart]
  rcases ends.scanPath_eq with ⟨complete, -⟩ | ⟨dangling, next, rfl⟩
  · rw [complete] at scanned
    simp only [Scan.behind, List.append_nil] at scanned
    rw [contents_path start scanned (List.append_assoc ..).symm] at accepted
    refine later rest ?_ fun problem listed => accepted problem (List.mem_cons_of_mem _ listed)
    have taken := List.length_pos_iff.mpr word.ne_nil
    simp only [List.length_append]
    omega
  · rw [dangling] at scanned
    obtain ⟨others, same⟩ := contents_danglingPath start scanned
    exact absurd (same ▸ List.mem_cons_self) (accepted _)

/-- Where every lexeme is a token, no number has a word right behind it, by induction over the text
and by what it begins with.
-/
theorem unglued_of_accepted {text : List Char}
    (accepted : ∀ problem, rejected problem ∉ contents text)
    : Unglued (pieces text) := by
  induction text using induction_on_first with
  | nil =>
      rw [pieces_nil]
      exact gluedWords_nil
  | number c rest start later => exact unglued_of_accepted_number start accepted later
  | path text start later => exact unglued_of_accepted_path start accepted later
  | symbol c rest noNumber noWord ih =>
      rw [pieces_other noNumber noWord, Unglued, gluedWords_other]
      refine ih fun problem listed => accepted problem ?_
      by_cases separates : isSeparator c
      · rwa [contents_separator separates]
      · rw [contents_symbol separates noNumber noWord]
        exact List.mem_cons_of_mem _ listed

end Qualification

end FormulaCompiler
