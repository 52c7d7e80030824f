import FormulaCompiler.Proofs.Lexing.Coverage

/-! What the spans of tokens mark. The text under a token is the one that it was made of, which the
token alone tells unless it is a number.
-/

namespace FormulaCompiler

/-- The only text that a token can be made of. A number has many. -/
def Token.spelling? : Token → Option String
  | .number _ => none
  | .name path => some path
  | .operator op => some (String.singleton op.symbol)
  | .openParen => some "("
  | .closeParen => some ")"
  | .comma => some ","

theorem Operator.symbol_of_ofSymbol? {c : Char} {op : Operator} (found : ofSymbol? c = some op)
    : op.symbol = c := by
  unfold ofSymbol? at found
  split at found <;> cases found <;> rfl

theorem Token.spelling_of_ofSymbol? {c : Char} {token : Token} (found : ofSymbol? c = some token)
    : token.spelling? = some (String.singleton c) := by
  unfold ofSymbol? at found
  split at found
  · cases found
    rfl
  · cases found
    rfl
  · cases found
    rfl
  · obtain ⟨op, same, rfl⟩ := Option.map_eq_some_iff.mp found
    rw [spelling?, Operator.symbol_of_ofSymbol? same]

namespace Lexeme

theorem spelling_of_first {c : Char} {rest taken : List Char} {token : Token} {written : String}
    (found : first c rest = (accepted token written, taken))
    : ∀ spelling ∈ token.spelling?, String.ofList taken = spelling := by
  intro spelling known
  unfold first at found
  split at found
  · unfold number at found
    dsimp only at found
    split at found
    · split at found <;> cases found
      cases known
    · cases found
  · split at found
    · unfold path at found
      dsimp only at found
      split at found <;> cases found
      exact Option.some.inj known
    · split at found <;> cases found
      rw [Token.spelling_of_ofSymbol? ‹_›] at known
      rw [← String.singleton_eq_ofList]
      exact Option.some.inj known

variable {text : String}

/-- A token marks the piece of the text that it was made of, which is its spelling where it has
just one.
-/
theorem exists_piece {token : Spanned Token} (listed : token ∈ (tokenize text).tokens)
    : ∃ c rest taken written,
        ¬isSeparator c
        ∧ first c rest = (accepted token.content written, taken)
        ∧ token.span.Marks text (String.ofList taken)
        ∧ ∀ spelling ∈ token.content.spelling?, String.ofList taken = spelling := by
  obtain ⟨⟨content, span⟩, member, read⟩ := List.mem_filterMap.mp listed
  obtain ⟨before, c, rest, taken, behind, parts, plain, found, place⟩ :=
    (cuts_scan text).exists_taken member
  cases content with
  | rejected problem => cases read
  | accepted content written =>
      cases read
      rw [Nat.zero_add] at place
      exact ⟨c, rest, taken, written, plain, found, Span.marks_of_toList parts place,
        spelling_of_first found⟩

theorem marks_spelling {token : Spanned Token} (listed : token ∈ (tokenize text).tokens)
    {spelling : String} (known : token.content.spelling? = some spelling)
    : token.span.Marks text spelling := by
  obtain ⟨c, rest, taken, written, -, -, marks, same⟩ := exists_piece listed
  exact same spelling known ▸ marks

theorem exists_marks {token : Spanned Token} (listed : token ∈ (tokenize text).tokens)
    : ∃ slice, token.span.Marks text slice := by
  obtain ⟨c, rest, taken, written, -, -, marks, -⟩ := exists_piece listed
  exact ⟨_, marks⟩

theorem isRangeOf_of_mem_tokens {token : Spanned Token} (listed : token ∈ (tokenize text).tokens)
    : token.span.IsRangeOf text := by
  obtain ⟨slice, marks⟩ := exists_marks listed
  exact marks.isRangeOf

end Lexeme

end FormulaCompiler
