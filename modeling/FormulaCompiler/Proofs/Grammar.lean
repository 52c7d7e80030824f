import FormulaCompiler.Postfix

/-! The grammar of formulas over tokens, and the trees that formulas are read as.

    expr  = term {("+" | "-") term}
    term  = unary {("*" | "/" | "%") unary}
    unary = "+" unary | "-" unary | power
    power = atom ["^" unary]
    atom  = number | name | name "(" [expr {"," expr}] ")" | "(" expr ")"

Repetitions group from the left, and the exponent of a power is all that follows.
-/

namespace FormulaCompiler

/-- The tree of a formula. Every node knows the part of the text that it was read from: an operator
its own character, and a call everything from its name to its closing parenthesis.
-/
inductive Formula where
  | number (value : Float) (span : Span)
  | name (path : String) (span : Span)
  | negate (arg : Formula) (span : Span)
  | operator (op : Operator) (left right : Formula) (span : Span)
  | call (path : String) (args : List Formula) (span : Span)

namespace Formula

mutual
/-- The nodes of a tree, each behind all nodes of its operands. -/
def postorder : Formula → List PostfixItem
  | number value span => [⟨.number value, span⟩]
  | name path span => [⟨.name path, span⟩]
  | negate arg span => arg.postorder ++ [⟨.negate, span⟩]
  | operator op left right span => left.postorder ++ right.postorder ++ [⟨.operator op, span⟩]
  | call path args span => postorderAll args ++ [⟨.call path args.length, span⟩]

/-- The nodes of several trees, one tree after the other. -/
def postorderAll : List Formula → List PostfixItem
  | [] => []
  | arg :: rest => arg.postorder ++ postorderAll rest
end

/-- Nodes of trees in a row, by induction over the first trees. -/
@[simp] theorem postorderAll_append (args more : List Formula)
    : postorderAll (args ++ more) = postorderAll args ++ postorderAll more := by
  induction args with
  | nil => rfl
  | cons arg rest ih => simp only [List.cons_append, postorderAll, ih, List.append_assoc]

@[simp] theorem postorderAll_singleton (arg : Formula) : postorderAll [arg] = arg.postorder := by
  simp only [postorderAll, List.append_nil]

end Formula

namespace Grammar

/-- The categories of the grammar. A call head is a call without its closing parenthesis. -/
inductive Category where
  | expr
  | term
  | unary
  | power
  | atom
  | callHead
deriving DecidableEq, Repr

/-- (Reads category input formula rest) says that (input) starts with something of a category that
is read as (formula), and that (rest) is left. The name of a call is no operand by itself.
-/
inductive Reads
    : Category → List (Spanned Token) → Formula → List (Spanned Token) → Prop
  | number {value span rest}
    : Reads .atom (⟨.number value, span⟩ :: rest) (.number value span) rest
  | name {path span rest}
    (notCalled : ∀ opened behind, rest ≠ ⟨.openParen, opened⟩ :: behind)
    : Reads .atom (⟨.name path, span⟩ :: rest) (.name path span) rest
  | group {opened closed behind rest formula}
    (inner : Reads .expr behind formula (⟨.closeParen, closed⟩ :: rest))
    : Reads .atom (⟨.openParen, opened⟩ :: behind) formula rest
  | emptyCall {path span opened closed rest}
    : Reads .atom
        (⟨.name path, span⟩ :: ⟨.openParen, opened⟩ :: ⟨.closeParen, closed⟩ :: rest)
        (.call path [] (span.through closed)) rest
  | call {path args span closed input rest}
    (head : Reads .callHead input (.call path args span) (⟨.closeParen, closed⟩ :: rest))
    : Reads .atom input (.call path args (span.through closed)) rest
  | firstArgument {path span opened behind arg rest} (first : Reads .expr behind arg rest)
    : Reads .callHead (⟨.name path, span⟩ :: ⟨.openParen, opened⟩ :: behind)
        (.call path [arg] (span.through opened)) rest
  | nextArgument {path args span comma input behind arg rest}
    (head : Reads .callHead input (.call path args span) (⟨.comma, comma⟩ :: behind))
    (next : Reads .expr behind arg rest)
    : Reads .callHead input (.call path (args ++ [arg]) span) rest
  | ofAtom {input formula rest} (atom : Reads .atom input formula rest)
    : Reads .power input formula rest
  | power {span input base behind exponent rest}
    (left : Reads .atom input base (⟨.operator .power, span⟩ :: behind))
    (right : Reads .unary behind exponent rest)
    : Reads .power input (.operator .power base exponent span) rest
  | ofPower {input formula rest} (power : Reads .power input formula rest)
    : Reads .unary input formula rest
  | plus {span behind formula rest} (operand : Reads .unary behind formula rest)
    : Reads .unary (⟨.operator .add, span⟩ :: behind) formula rest
  | minus {span behind formula rest} (operand : Reads .unary behind formula rest)
    : Reads .unary (⟨.operator .subtract, span⟩ :: behind) (.negate formula span) rest
  | ofUnary {input formula rest} (unary : Reads .unary input formula rest)
    : Reads .term input formula rest
  | product {op span input left behind right rest}
    (isProduct : op = .multiply ∨ op = .divide ∨ op = .remainder)
    (first : Reads .term input left (⟨.operator op, span⟩ :: behind))
    (second : Reads .unary behind right rest)
    : Reads .term input (.operator op left right span) rest
  | ofTerm {input formula rest} (term : Reads .term input formula rest)
    : Reads .expr input formula rest
  | sum {op span input left behind right rest} (isSum : op = .add ∨ op = .subtract)
    (first : Reads .expr input left (⟨.operator op, span⟩ :: behind))
    (second : Reads .term behind right rest)
    : Reads .expr input (.operator op left right span) rest

/-- A call head has an argument at least. -/
theorem Reads.args_ne_nil {path : String} {args : List Formula} {span : Span}
    {input rest : List (Spanned Token)}
    (head : Reads .callHead input (.call path args span) rest)
    : args ≠ [] := by
  cases head with
  | firstArgument _ => exact List.cons_ne_nil _ _
  | nextArgument _ _ => exact List.append_ne_nil_of_right_ne_nil _ (List.cons_ne_nil _ _)

end Grammar

end FormulaCompiler
