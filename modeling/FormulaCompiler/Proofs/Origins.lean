import FormulaCompiler.Proofs.Grammar

/-! Where the items of a formula were read. Every item has the span of a token, or reaches from the
name of a call to the parenthesis that closes it.
-/

namespace FormulaCompiler.Grammar

/-- (Origin item input) says that (item) was read at the front of (input). -/
inductive Origin : PostfixItem → List (Spanned Token) → Prop
  | number {value span rest}
    : Origin ⟨.number value, span⟩ (⟨.number value, span⟩ :: rest)
  | name {path span rest} (alone : ∀ opened behind, rest ≠ ⟨.openParen, opened⟩ :: behind)
    : Origin ⟨.name path, span⟩ (⟨.name path, span⟩ :: rest)
  | negate {span rest} : Origin ⟨.negate, span⟩ (⟨.operator .subtract, span⟩ :: rest)
  | operator {op span rest} : Origin ⟨.operator op, span⟩ (⟨.operator op, span⟩ :: rest)
  | call {path name opened inner closed rest args}
    (closes
      : Reads .atom
          (⟨.name path, name⟩ :: ⟨.openParen, opened⟩ :: (inner ++ ⟨.closeParen, closed⟩ :: rest))
          (.call path args (name.through closed)) rest)
    : Origin ⟨.call path args.length, name.through closed⟩
        (⟨.name path, name⟩ :: ⟨.openParen, opened⟩ :: (inner ++ ⟨.closeParen, closed⟩ :: rest))

/-- The items of what was read. A call head has those of its arguments so far. -/
def readItems : Category → Formula → List PostfixItem
  | .callHead, .call _ args _ => Formula.postorderAll args
  | _, formula => formula.postorder

variable {category : Category} {input rest : List (Spanned Token)} {formula : Formula}

/-- What is left behind something stands behind it, by induction over the reading. -/
theorem Reads.isSuffix (reads : Reads category input formula rest) : rest <:+ input := by
  induction reads with
  | number | name _ => exact List.suffix_cons _ _
  | emptyCall => exact ⟨[_, _, _], rfl⟩
  | group _ ih => exact (List.suffix_cons _ _).trans (ih.trans (List.suffix_cons _ _))
  | call _ ih => exact (List.suffix_cons _ _).trans ih
  | firstArgument _ ih => exact ih.trans ⟨[_, _], rfl⟩
  | nextArgument _ _ ihHead ihNext => exact ihNext.trans ((List.suffix_cons _ _).trans ihHead)
  | ofAtom _ ih | ofPower _ ih | ofUnary _ ih | ofTerm _ ih => exact ih
  | plus _ ih | minus _ ih => exact ih.trans (List.suffix_cons _ _)
  | power _ _ ihLeft ihRight => exact ihRight.trans ((List.suffix_cons _ _).trans ihLeft)
  | product _ _ _ ihFirst ihSecond | sum _ _ _ ihFirst ihSecond =>
      exact ihSecond.trans ((List.suffix_cons _ _).trans ihFirst)

/-- A call head begins with a name and its opening parenthesis, and reaches to the parenthesis. -/
theorem Reads.callHead_cases (reads : Reads category input formula rest)
    (isHead : category = .callHead)
    : ∃ path args name opened inner,
        formula = .call path args (name.through opened)
        ∧ input = ⟨.name path, name⟩ :: ⟨.openParen, opened⟩ :: (inner ++ rest) := by
  induction reads with
  | firstArgument first _ =>
      obtain ⟨inner, rfl⟩ := first.isSuffix
      exact ⟨_, _, _, _, inner, rfl, rfl⟩
  | @nextArgument _ _ _ comma _ _ _ _ _ next ih _ =>
      obtain ⟨path, args, name, opened, inner, same, rfl⟩ := ih rfl
      obtain ⟨more, rfl⟩ := next.isSuffix
      cases same
      refine ⟨_, _, _, _, inner ++ ⟨.comma, comma⟩ :: more, rfl, ?_⟩
      rw [List.append_assoc]
      rfl
  | _ => cases isHead

/-- Every item was read somewhere. -/
def Traced (items : List PostfixItem) (input : List (Spanned Token)) : Prop :=
  ∀ item ∈ items, ∃ start, start <:+ input ∧ Origin item start

theorem Traced.of_isSuffix {items : List PostfixItem} (traced : Traced items rest)
    (behind : rest <:+ input)
    : Traced items input := by
  intro item listed
  obtain ⟨start, within, origin⟩ := traced item listed
  exact ⟨start, within.trans behind, origin⟩

theorem Traced.append {items more : List PostfixItem} (traced : Traced items input)
    (also : Traced more input)
    : Traced (items ++ more) input := by
  intro item listed
  rcases List.mem_append.mp listed with early | late
  · exact traced item early
  · exact also item late

theorem Traced.single {item : PostfixItem} (origin : Origin item input) : Traced [item] input := by
  intro other listed
  obtain rfl := List.mem_singleton.mp listed
  exact ⟨input, List.suffix_refl input, origin⟩

/-- An operator was read between its operands. -/
theorem Traced.between {left right : List PostfixItem} {op : Operator} {span : Span}
    {behind : List (Spanned Token)} (first : Traced left input)
    (within : ⟨.operator op, span⟩ :: behind <:+ input) (second : Traced right behind)
    : Traced (left ++ right ++ [⟨.operator op, span⟩]) input :=
  (first.append (second.of_isSuffix ((List.suffix_cons _ _).trans within))).append
    ((Traced.single .operator).of_isSuffix within)

/-- Whatever is read, its items were read in it. By induction over the reading: each rule adds one
item of its own to those of its parts.
-/
theorem Reads.traced (reads : Reads category input formula rest)
    : Traced (readItems category formula) input := by
  induction reads with
  | number => exact .single .number
  | name alone => exact .single (.name alone)
  | group _ ih => exact ih.of_isSuffix (List.suffix_cons _ _)
  | @emptyCall path span opened closed rest =>
      have read : Reads .atom
          (⟨.name path, span⟩ :: ⟨.openParen, opened⟩ :: ([] ++ ⟨.closeParen, closed⟩ :: rest))
          (.call path [] (span.through closed)) rest :=
        .emptyCall
      exact .single (.call read)
  | @call path args _ closed _ rest head ih =>
      obtain ⟨_, _, name, opened, inner, same, rfl⟩ := head.callHead_cases rfl
      cases same
      have read := Reads.call head
      have closes : Reads .atom _ (.call path args (name.through closed)) rest := read
      exact ih.append (.single (.call closes))
  | firstArgument _ ih =>
      rw [readItems, Formula.postorderAll_singleton]
      exact ih.of_isSuffix ⟨[_, _], rfl⟩
  | nextArgument head next ihHead ihNext =>
      rw [readItems, Formula.postorderAll_append, Formula.postorderAll_singleton]
      exact ihHead.append (ihNext.of_isSuffix ((List.suffix_cons _ _).trans head.isSuffix))
  | ofAtom _ ih | ofPower _ ih | ofUnary _ ih | ofTerm _ ih => exact ih
  | plus _ ih => exact ih.of_isSuffix (List.suffix_cons _ _)
  | minus _ ih => exact (ih.of_isSuffix (List.suffix_cons _ _)).append (.single .negate)
  | power left right ihLeft ihRight => exact ihLeft.between left.isSuffix ihRight
  | product _ first second ihFirst ihSecond | sum _ first second ihFirst ihSecond =>
      exact ihFirst.between first.isSuffix ihSecond

end FormulaCompiler.Grammar
