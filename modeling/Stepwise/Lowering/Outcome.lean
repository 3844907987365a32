import Stepwise.Expr
import Stepwise.ExpressionError
import Stepwise.Limit
import Stepwise.Numeral
import Stepwise.Operation
import Stepwise.Token
import Stepwise.Token.Layout

/-!
# What a tree comes to

What is known of a decomposition from the tree alone: the normal tree that it stands for, the faults
that prevent it, the number of its operations, where each operation and each literal comes from, and
the decomposition itself by recursion on the tree.
-/

namespace Stepwise

/-!
## Normal trees

A list of operations knows neither parentheses nor signs. `Expr.normal` is the tree that remains
of an expression: parentheses are gone, a minus sign before a literal is folded into it, and any
other minus sign is a subtraction from the literal `0`. `Operand.tree?` goes the other way and
puts a tree together from a list of operations.
-/

namespace Expr

/-- A tree with a minus sign before it, where the tree is normal already. -/
def negated : Expr → Expr
  | literal text => literal (Numeral.negate text)
  | e => binary '-' (literal "0") e

/-- The tree without parentheses and signs. Signs other than a minus are kept. -/
def normal : Expr → Expr
  | literal text => literal text
  | paren inner => inner.normal
  | unary op operand => if op = '-' then operand.normal.negated else unary op operand.normal
  | binary op left right => binary op left.normal right.normal

/-- The binary nodes of a tree: those of the left operand, those of the right one, and then the
node itself. -/
def binaries : Expr → List Expr
  | literal _ => []
  | paren inner => inner.binaries
  | unary _ operand => operand.binaries
  | binary op left right => left.binaries ++ right.binaries ++ [binary op left right]

end Expr

/-- The tree of an operand, where `before` are the operations that it may refer to, latest first.
There is none if some reference leads nowhere. -/
def Operand.tree? : (before : List Operation) → Operand → Option Expr
  | _, .literal text => some (.literal text)
  | [], .reference _ => none
  | operation :: before, .reference id =>
    if operation.id = id then
      match operation.left.tree? before, operation.right.tree? before with
      | some left, some right => some (.binary operation.kind.symbol left right)
      | _, _ => none
    else Operand.tree? before (.reference id)

/-- The tree of the result of a decomposition. -/
def Decomposition.tree? (decomposition : Decomposition) : Option Expr :=
  decomposition.result.tree? decomposition.operations.reverse

/-!
## What a tree offends against, and what it costs

Whether an expression can be executed is written in its tree: `Expr.offences` are the faults of
its nodes, in the order in which they are met, and `Expr.cost` is the number of operations that
it needs when it has none.
-/

namespace Expr

/-- The tree is the literal `0`, but for parentheses and minus signs around it. -/
def isZero : Expr → Bool
  | literal text => text == "0"
  | paren inner => inner.isZero
  | unary op operand => op == '-' && operand.isZero
  | binary _ _ _ => false

/-- The tree contains a binary operator. -/
def hasBinary : Expr → Bool
  | literal _ => false
  | paren inner => inner.hasBinary
  | unary _ operand => operand.hasBinary
  | binary _ _ _ => true

/-- The faults of the nodes: those of the left operand, those of the right one, and then that of
the node itself. -/
def offences : Expr → List LoweringFault
  | literal _ => []
  | paren inner => inner.offences
  | unary op operand =>
    operand.offences ++ if op = '+' then [.unsupportedSign '+'] else []
  | binary op left right =>
    left.offences ++ right.offences ++
      if op = '%' then [.unsupportedOperator '%']
      else if op = '/' ∧ right.isZero = true then [.zeroDivisor]
      else []

/-- The number of operations: one for each binary operator, and one for each sign that stands
before a tree with a binary operator. -/
def cost : Expr → Nat
  | literal _ => 0
  | paren inner => inner.cost
  | unary _ operand => operand.cost + if operand.hasBinary then 1 else 0
  | binary _ left right => left.cost + right.cost + 1

end Expr

/-!
## Where operations and literals come from

Every operation is there for a node of the tree, and every literal for a number of the text.
`Expr.operators` lists the nodes that need an operation, and `TokenList.Accounts` says what the
operation of such a node may look like: its literals are numbers of the text, written as there,
with or without a minus sign, and zero has no sign. Only the operation of a sign has a literal of
its own, the `0` from which it subtracts.
-/

/-- The nodes for which there is an operation, each after those within it: the binary operators, and
the signs before a tree with a binary operator. -/
def Expr.operators : Expr → List Expr
  | literal _ => []
  | paren inner => inner.operators
  | unary op operand =>
    operand.operators ++ if operand.hasBinary then [unary op operand] else []
  | binary op left right => left.operators ++ right.operators ++ [binary op left right]

/-- The text is the number, or a minus sign and the number where that is not zero. -/
inductive Numeral.Signs (number : String) : String → Prop where
  | plain : Signs number number
  | minus : value number ≠ 0 → Signs number ("-" ++ number)

/-- The text of a number. -/
def Lexeme.number? : Lexeme → Option String
  | number text => some text
  | _ => none

namespace TokenList

/-- The numbers among the tokens, as they are written. -/
def numbers (list : TokenList) : List String :=
  list.tokens.filterMap fun token => token.lexeme.number?

/-- If the operand is a literal, then it is a number of the tokens with or without a minus sign. -/
def Backs (list : TokenList) (operand : Operand) : Prop :=
  ∀ text, operand = .literal text →
    ∃ number ∈ list.numbers, number.toList ∈ Numeral.magnitudes ∧ Numeral.Signs number text

/-- What the operation of a node may look like. -/
inductive Accounts (list : TokenList) : Operation → Expr → Prop where
  | operator {operation : Operation} {op : Char} {left right : Expr} :
      operation.kind.symbol = op → list.Backs operation.left → list.Backs operation.right →
      Accounts list operation (.binary op left right)
  | sign {operation : Operation} {operand : Expr} : operation.kind = .subtraction →
      operation.left = .literal "0" → operation.right.literal? = none →
      Accounts list operation (.unary '-' operand)

end TokenList

/-!
## Lowering by recursion

`Expr.plainLower` says what taking a tree apart means without any stack: an operand is finished
before its operator, the left one first, and the first fault that is met ends everything. The
operations beyond the limit are counted but not kept, and the count is judged last.
-/

/-- The operations kept so far, and the number of those that were asked for. -/
structure Tally where
  kept : List Operation
  asked : Nat
deriving DecidableEq, Repr

/-- Asks for one more operation. Each kept operation has its own place in the supply. -/
def Tally.ask (limit : Limit) (supply : Supply) (kind : Arithmetic) (left right : Operand)
    (tally : Tally) : Operand × Tally :=
  if tally.asked < limit.maxOperations then
    (.reference (supply tally.kept.length),
      ⟨tally.kept ++ [.new (supply tally.kept.length) kind left right], tally.asked + 1⟩)
  else (.reference .nil, ⟨tally.kept, tally.asked + 1⟩)

/-- The value of a sign and its finished operand. -/
def Tally.sign (limit : Limit) (supply : Supply) (op : Char) :
    Operand × Tally → Except LoweringFault (Operand × Tally)
  | (operand, tally) =>
    if op ≠ '-' then .error (.unsupportedSign op)
    else match operand with
      | .literal text => .ok (.literal (Numeral.negate text), tally)
      | .reference id =>
        .ok (tally.ask limit supply .subtraction (.literal "0") (.reference id))

/-- The value of a binary operator and its finished operands. -/
def Tally.combine (limit : Limit) (supply : Supply) (op : Char) (left : Operand) :
    Operand × Tally → Except LoweringFault (Operand × Tally)
  | (right, tally) =>
    match Arithmetic.ofSymbol? op with
    | none => .error (.unsupportedOperator op)
    | some kind =>
      if op = '/' ∧ right = .literal "0" then .error .zeroDivisor
      else .ok (tally.ask limit supply kind left right)

/-- The value of a tree, with the operations that it asks for. -/
def Expr.plainValue (limit : Limit) (supply : Supply) :
    Expr → Tally → Except LoweringFault (Operand × Tally)
  | .literal text, tally =>
    if Numeral.isNumeral text then .ok (.literal text, tally) else .error (.notNumeric text)
  | .paren inner, tally => inner.plainValue limit supply tally
  | .unary op operand, tally =>
    (operand.plainValue limit supply tally).bind (Tally.sign limit supply op)
  | .binary op left right, tally =>
    (left.plainValue limit supply tally).bind fun (first, tally) =>
      (right.plainValue limit supply tally).bind (Tally.combine limit supply op first)

/-- The operations of a tree, taken apart by recursion. -/
def Expr.plainLower (limit : Limit) (supply : Supply) (e : Expr) :
    Except LoweringFault Decomposition :=
  (e.plainValue limit supply ⟨[], 0⟩).bind fun (result, tally) =>
    if tally.asked ≤ limit.maxOperations then .ok ⟨tally.kept, result⟩
    else .error (.tooMany tally.asked limit.maxOperations)

end Stepwise
