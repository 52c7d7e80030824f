import FormulaCompiler.Diagnostic
import FormulaCompiler.Expr
import FormulaCompiler.Postfix

/-! Building the expression that postfix items stand for, with every name resolved. A name that
cannot be resolved is reported, and a placeholder lets the building go on.
-/

namespace FormulaCompiler

/-- The names that an expression can use: its parameter and the modules it imports. -/
structure Scope where
  parameter : String
  imports : List String
deriving DecidableEq, Repr

/-- The parts of a path before and behind its first double colon. -/
def splitPath? : List Char → Option (List Char × List Char)
  | ':' :: ':' :: rest => some ([], rest)
  | c :: rest => (splitPath? rest).map fun parts => (c :: parts.1, parts.2)
  | [] => none

namespace Scope

/-- The library member that a path leads to. -/
def resolve (scope : Scope) (path : String) : Except Problem Export :=
  match splitPath? path.toList with
  | none => .error (.unknownName path)
  | some (module, member) =>
    let module := String.ofList module
    let member := String.ofList member
    if module = Library.moduleName ∧ module ∈ scope.imports then
      match Library.lookup? member with
      | some found => .ok found
      | none => .error (.unknownMember module member)
    else
      .error (.unknownModule module)

/-- The expression that a name stands for: the parameter or a constant. -/
def name (scope : Scope) (path : String) : Except Problem Expr :=
  if path = scope.parameter then .ok .parameter
  else
    match scope.resolve path with
    | .error problem => .error problem
    | .ok found =>
      match found.member with
      | .constant value => .ok (.constant value)
      | _ => .error (.functionAsValue path)

/-- The call of the function that a path leads to, with its arguments in order. Behind the check of
their number, they are taken from the end.
-/
def call (scope : Scope) (path : String) (arguments : List Expr) : Except Problem Expr :=
  if path = scope.parameter then .error (.notCallable path)
  else
    match scope.resolve path with
    | .error problem => .error problem
    | .ok found =>
      match found.member.arity? with
      | none => .error (.notCallable path)
      | some count =>
        if arguments.length ≠ count then
          .error (.wrongArgumentCount path count arguments.length)
        else
          let last? := arguments.getLast?
          let first? := arguments.dropLast.getLast?
          match found.member, first?, last? with
          | .unary _, none, some arg => .ok (.call1 found arg)
          | .binary _, some left, some right => .ok (.call2 found left right)
          | _, _, _ => .error (.notCallable path)

/-- Behind the check of their number, the arguments are those of the function: no call is refused
any more for what was taken from the end.
-/
theorem call_eq (scope : Scope) (path : String) (arguments : List Expr)
    : scope.call path arguments
      = if path = scope.parameter then .error (.notCallable path)
        else
          match scope.resolve path with
          | .error problem => .error problem
          | .ok found =>
            match found.member, arguments with
            | .constant _, _ => .error (.notCallable path)
            | .unary _, [arg] => .ok (.call1 found arg)
            | .unary _, _ => .error (.wrongArgumentCount path 1 arguments.length)
            | .binary _, [left, right] => .ok (.call2 found left right)
            | .binary _, _ => .error (.wrongArgumentCount path 2 arguments.length) := by
  unfold call
  split
  · rfl
  · cases scope.resolve path with
    | error problem => rfl
    | ok found =>
      dsimp only
      cases found.member with
      | constant value => rfl
      | unary apply =>
        rcases arguments with _ | ⟨first, _ | ⟨second, rest⟩⟩
        all_goals simp [Member.arity?]
      | binary apply =>
        rcases arguments with _ | ⟨first, _ | ⟨second, _ | ⟨third, rest⟩⟩⟩
        all_goals simp [Member.arity?]

end Scope

/-- What one item makes of a stack of expressions: a new expression, the stack below it, and what
there is to report.
-/
structure Reduction where
  expr : Expr
  below : List Expr
  problem? : Option Problem := none

/-- The reduction to a resolved expression, or to a placeholder where resolving failed. -/
def Reduction.ofResolved (below : List Expr) : Except Problem Expr → Reduction
  | .ok expr => { expr, below }
  | .error problem => { expr := .constant .noNumber, below, problem? := some problem }

/-- Whether an operator divides by its right operand. -/
def Operator.divides : Operator → Bool
  | .divide | .remainder => true
  | _ => false

/-- Applies one item to a stack of expressions, the latest first, if the stack holds enough. -/
def Scope.reduce? (scope : Scope) (stack : List Expr) : PostfixNode → Option Reduction
  | .number value => some { expr := .constant (.ofFloat value), below := stack }
  | .name path => some (.ofResolved stack (scope.name path))
  | .negate =>
    match stack with
    | arg :: below => some { expr := .negate arg, below }
    | [] => none
  | .operator op =>
    match stack with
    | right :: left :: below =>
      let problem? := if op.divides && right.isLiteralZero then some .zeroDivisor else none
      some { expr := .binary op left right, below, problem? }
    | _ => none
  | .call path count =>
    if count ≤ stack.length then
      some (.ofResolved (stack.drop count) (scope.call path (stack.take count).reverse))
    else
      none

/-- Applies items to a stack of expressions. The result is the one expression that is left, if it is
just one, and the reports up to the first item that finds too little on the stack.
-/
def Scope.bindOnto (scope : Scope) (stack : List Expr)
    : List PostfixItem → Option Expr × List Diagnostic
  | [] =>
    match stack with
    | [expr] => (some expr, [])
    | _ => (none, [])
  | item :: rest =>
    match scope.reduce? stack item.content with
    | none => (none, [])
    | some reduction =>
      let (expr?, later) := scope.bindOnto (reduction.expr :: reduction.below) rest
      let found := reduction.problem?.toList.map fun problem => { problem, span := item.span }
      (expr?, found ++ later)

/-- The expression that items in postfix order stand for, and the reports about it. -/
def Scope.bind (scope : Scope) (items : List PostfixItem) : Option Expr × List Diagnostic :=
  scope.bindOnto [] items

end FormulaCompiler
