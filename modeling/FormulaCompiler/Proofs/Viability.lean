import FormulaCompiler.Proofs.Grammar

/-! Beginnings of formulas: which tokens can still become an expression, what they leave open, and
what may stand behind them.
-/

namespace FormulaCompiler.Grammar

/-- All of the tokens are one expression. -/
def Derives (tokens : List (Spanned Token)) : Prop :=
  ∃ formula, Reads .expr tokens formula []

/-- The tokens begin an expression: more of them can make it complete. -/
def Viable (tokens : List (Spanned Token)) : Prop :=
  ∃ more, Derives (tokens ++ more)

-----------------------------------------------------------------------------------------
-- What is open
-----------------------------------------------------------------------------------------

/-- An opening parenthesis alone, or one with the name of a call in front of it, and the part of the
text that the two take.
-/
inductive Opening where
  | group (span : Span)
  | call (span : Span)
deriving DecidableEq

namespace Opening

/-- The part of the text that an opening takes. -/
def span : Opening → Span
  | group span | call span => span

/-- Whether an opening begins the arguments of a call. -/
def isCall : Opening → Bool
  | group _ => false
  | call _ => true

end Opening

/-- The openings that are left behind one token, where (outer) are open before it. -/
def openingsAfter (outer : List Opening) (token : Spanned Token) : List Opening :=
  match token.content with
  | .openParen => .group token.span :: outer
  | .closeParen => outer.tail
  | _ => outer

/-- The openings that tokens leave unclosed, the innermost first, where (outer) are open before
them.
-/
def openingsFrom (outer : List Opening) : List (Spanned Token) → List Opening
  | [] => outer
  | ⟨.name _, span⟩ :: ⟨.openParen, opened⟩ :: rest =>
    openingsFrom (.call (span.through opened) :: outer) rest
  | token :: rest => openingsFrom (openingsAfter outer token) rest

/-- The openings that tokens leave unclosed, the innermost first. -/
def openings (tokens : List (Spanned Token)) : List Opening :=
  openingsFrom [] tokens

/-- An opening is made of tokens: of a parenthesis, or of a name and the parenthesis behind it. -/
inductive Opening.MadeOf (tokens : List (Spanned Token)) : Opening → Prop
  | group {span} (listed : ⟨.openParen, span⟩ ∈ tokens) : MadeOf tokens (.group span)
  | call {path span opened}
    (listed : [⟨.name path, span⟩, ⟨.openParen, opened⟩].Sublist tokens)
    : MadeOf tokens (.call (span.through opened))

theorem Opening.MadeOf.behind {opening : Opening} {tokens : List (Spanned Token)}
    (made : opening.MadeOf tokens) (front : List (Spanned Token))
    : opening.MadeOf (front ++ tokens) := by
  cases made with
  | group listed => exact .group (List.mem_append_right front listed)
  | call listed => exact .call (listed.trans (List.sublist_append_right front tokens))

/-- What tokens leave open was open before or is made of them, by induction over the tokens. -/
theorem madeOf_of_mem_openingsFrom {outer : List Opening} {tokens : List (Spanned Token)}
    {opening : Opening} (listed : opening ∈ openingsFrom outer tokens)
    : opening ∈ outer ∨ opening.MadeOf tokens := by
  fun_induction openingsFrom outer tokens with
  | case1 outer => exact .inl listed
  | case2 outer path span opened rest ih =>
      rcases ih listed with before | made
      · rcases List.mem_cons.mp before with rfl | before
        · exact .inr (.call (List.Sublist.cons_cons _ (List.Sublist.cons_cons _ rest.nil_sublist)))
        · exact .inl before
      · exact .inr (made.behind [_, _])
  | case3 outer token rest single ih =>
      rcases ih listed with before | made
      · unfold openingsAfter at before
        split at before
        · rename_i isOpening
          rcases List.mem_cons.mp before with rfl | before
          · refine .inr (.group ?_)
            rw [← isOpening]
            exact List.mem_cons_self
          · exact .inl before
        · exact .inl (List.mem_of_mem_tail before)
        · exact .inl before
      · exact .inr (made.behind [token])

-----------------------------------------------------------------------------------------
-- What may come next
-----------------------------------------------------------------------------------------

/-- Whether an operand can begin with this token. -/
def beginsOperand : Token → Bool
  | .number _ | .name _ | .openParen | .operator .add | .operator .subtract => true
  | _ => false

/-- The tokens end with the opening of a call. -/
def OpensCall (tokens : List (Spanned Token)) : Prop :=
  ∃ front path span opened, tokens = front ++ [⟨.name path, span⟩, ⟨.openParen, opened⟩]

/-- An operand is needed behind these tokens: nothing else can come next, unless it closes a call
that was just opened.
-/
def NeedsOperand (tokens : List (Spanned Token)) : Prop :=
  ∀ next,
    Viable (tokens ++ [next])
    → beginsOperand next.content ∨ (next.content = .closeParen ∧ OpensCall tokens)

/-- The token begins another operand, or separates arguments where the innermost of the openings is
that of no call.
-/
def Misplaced (opened : List Opening) : Token → Prop
  | .number _ | .name _ | .openParen => True
  | .comma => ∀ innermost ∈ opened.head?, innermost.isCall = false
  | .operator _ | .closeParen => False

end FormulaCompiler.Grammar
