import FormulaCompiler.Diagnostic
import FormulaCompiler.Postfix

/-! Reading tokens into postfix order with a stack of pending operators and openings. An operator
waits on the stack until a weaker one, a comma, a closing parenthesis or the end sends it out.
-/

namespace FormulaCompiler.ShuntingYard

/-- What waits on the stack: operators for their last operand, and openings for their closing
parenthesis. A call counts the commas it has seen, and its span ends with its opening parenthesis.
-/
inductive Pending where
  | negate (span : Span)
  | operator (op : Operator) (span : Span)
  | group (span : Span)
  | call (path : String) (span : Span) (commas : Nat)
deriving DecidableEq

/-- What the next token has to begin with. Right behind an opening, a closing parenthesis may stand
in the place of an operand.
-/
inductive Expecting where
  | operand
  | firstOperand
  | operator
deriving DecidableEq

/-- The state between two tokens: what has been written, the latest step first, what waits, the
innermost first, and what is expected.
-/
structure State where
  output : List PostfixItem
  pending : List Pending
  expecting : Expecting
deriving DecidableEq

/-- How strongly an operator binds its operands. -/
def strength : Operator → Nat
  | .add | .subtract => 1
  | .multiply | .divide | .remainder => 2
  | .power => 4

/-- The strength of a minus before its operand: weaker than a power, stronger than a product. -/
def negateStrength : Nat := 3

/-- Whether equal operators group from the right. -/
def isRightAssociative : Operator → Bool
  | .power => true
  | _ => false

/-- The part of the text that waits. -/
def Pending.span : Pending → Span
  | .negate span | .operator _ span | .group span | .call _ span _ => span

/-- The step that a pending operator writes. -/
def Pending.item? : Pending → Option PostfixItem
  | .negate span => some ⟨.negate, span⟩
  | .operator op span => some ⟨.operator op, span⟩
  | .group _ | .call _ _ _ => none

/-- Whether an operator of this strength takes its operand before (op) can. -/
def goesBefore (pendingStrength : Nat) (op : Operator) : Bool :=
  if isRightAssociative op then strength op < pendingStrength else strength op ≤ pendingStrength

/-- Whether a pending operator is written before (op) is put on the stack. -/
def Pending.leavesFor (op : Operator) : Pending → Bool
  | .negate _ => goesBefore negateStrength op
  | .operator other _ => goesBefore (strength other) op
  | .group _ | .call _ _ _ => false

/-- Writes pending operators, the innermost first, as long as they are to leave. -/
def writeWhile (leaves : Pending → Bool) (output : List PostfixItem)
    : List Pending → List PostfixItem × List Pending
  | [] => (output, [])
  | top :: rest =>
    match top.item? with
    | some item =>
      if leaves top then writeWhile leaves (item :: output) rest else (output, top :: rest)
    | none => (output, top :: rest)

/-- Writes all operators up to the innermost opening. -/
def writeGroup (output : List PostfixItem) (pending : List Pending)
    : List PostfixItem × List Pending :=
  writeWhile (fun _ => true) output pending

namespace State

/-- The state before the first token. -/
def initial : State :=
  ⟨[], [], .operand⟩

/-- Reads an operand. -/
def operand (state : State) (token : Token) (node : PostfixNode) (span : Span)
    : Except Diagnostic State :=
  if state.expecting = .operator then
    .error { problem := .unexpectedOperand token, span }
  else
    .ok { state with output := ⟨node, span⟩ :: state.output, expecting := .operator }

/-- Reads an opening parenthesis, alone or behind the name of a call. (token) is the one to blame
where no operand can follow.
-/
def opening (state : State) (token : Spanned Token) (pending : Pending)
    : Except Diagnostic State :=
  if state.expecting = .operator then
    .error { problem := .unexpectedOperand token.content, span := token.span }
  else
    .ok { state with pending := pending :: state.pending, expecting := .firstOperand }

/-- Reads an operator. Before an operand, a plus says nothing and a minus negates. -/
def operator (state : State) (op : Operator) (span : Span) : Except Diagnostic State :=
  if state.expecting = .operator then
    let (output, pending) := writeWhile (·.leavesFor op) state.output state.pending
    .ok ⟨output, .operator op span :: pending, .operand⟩
  else
    match op with
    | .add => .ok { state with expecting := .operand }
    | .subtract =>
      .ok { state with pending := .negate span :: state.pending, expecting := .operand }
    | _ => .error { problem := .missingOperand (.beforeOperator op), span }

/-- Reads a comma, which ends one argument of a call and begins the next. -/
def comma (state : State) (span : Span) : Except Diagnostic State :=
  if state.expecting = .operator then
    match writeGroup state.output state.pending with
    | (output, .call path opened commas :: rest) =>
      .ok ⟨output, .call path opened (commas + 1) :: rest, .operand⟩
    | _ => .error { problem := .strayComma, span }
  else
    .error { problem := .missingOperand .beforeComma, span }

/-- Reads a closing parenthesis, which ends a group or a call. Only a call may be empty. -/
def closing (state : State) (span : Span) : Except Diagnostic State :=
  if state.expecting = .operand then
    .error { problem := .missingOperand .beforeClose, span }
  else
    let empty := state.expecting = .firstOperand
    match writeGroup state.output state.pending with
    | (output, .group _ :: rest) =>
      if empty then .error { problem := .missingOperand .insideParens, span }
      else .ok ⟨output, rest, .operator⟩
    | (output, .call path opened commas :: rest) =>
      let count := if empty then 0 else commas + 1
      .ok ⟨⟨.call path count, opened.through span⟩ :: output, rest, .operator⟩
    | _ => .error { problem := .unmatchedClose, span }

/-- Reads one token, other than a name that an opening parenthesis follows. -/
def step (state : State) (token : Spanned Token) : Except Diagnostic State :=
  match token.content with
  | .number value => state.operand token.content (.number value) token.span
  | .name path => state.operand token.content (.name path) token.span
  | .operator op => state.operator op token.span
  | .openParen => state.opening token (.group token.span)
  | .closeParen => state.closing token.span
  | .comma => state.comma token.span

/-- Reads tokens in order. A name and the opening parenthesis behind it open a call together. -/
def run (state : State) : List (Spanned Token) → Except Diagnostic State
  | [] => .ok state
  | ⟨.name path, span⟩ :: ⟨.openParen, openSpan⟩ :: rest => do
    let next ← state.opening ⟨.name path, span⟩ (.call path (span.through openSpan) 0)
    next.run rest
  | token :: rest => do
    let next ← state.step token
    next.run rest

/-- Ends the formula at (stop): every operator is written, and no opening may be left. -/
def finish (state : State) (stop : Nat) : Except Diagnostic (List PostfixItem) :=
  if state.expecting = .operator then
    match writeGroup state.output state.pending with
    | (output, []) => .ok output.reverse
    | (_, top :: _) => .error { problem := .unclosedOpen, span := top.span }
  else
    .error { problem := .missingOperand .atEnd, span := ⟨stop, stop⟩ }

end State

/-- The postfix order of a formula given by its tokens and the position where its text ends, or the
first thing that is wrong with them.
-/
def postfixOrder (tokens : List (Spanned Token)) (stop : Nat)
    : Except Diagnostic (List PostfixItem) := do
  (← State.initial.run tokens).finish stop

end FormulaCompiler.ShuntingYard
