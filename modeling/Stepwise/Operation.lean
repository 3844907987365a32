import Stepwise.Operand

/-!
# Operations

An operation is one binary arithmetic step: it has an identifier under which its result is known,
a kind, two operands, and a status that belongs to whoever executes it. It is bound to a
calculation once that calculation is known.
-/

namespace Stepwise

/-- The arithmetic of a single operation. -/
inductive Arithmetic where
  | addition
  | subtraction
  | multiplication
  | division
deriving DecidableEq, Repr, Inhabited

namespace Arithmetic

/-- The kind that an operator stands for. -/
def ofSymbol? (op : Char) : Option Arithmetic :=
  if op = '+' then some addition
  else if op = '-' then some subtraction
  else if op = '*' then some multiplication
  else if op = '/' then some division
  else none

/-- The operator of a kind. -/
def symbol : Arithmetic → Char
  | addition => '+'
  | subtraction => '-'
  | multiplication => '*'
  | division => '/'

/-- The name of a kind. -/
def name : Arithmetic → String
  | addition => "Addition"
  | subtraction => "Subtraction"
  | multiplication => "Multiplication"
  | division => "Division"

/-- All kinds, in the order in which they are listed to readers. -/
def all : List Arithmetic := [addition, subtraction, multiplication, division]

@[simp] theorem ofSymbol?_symbol (kind : Arithmetic) : ofSymbol? kind.symbol = some kind := by
  cases kind <;> rfl

end Arithmetic

/-- How far the execution of an operation has come. -/
inductive Status where
  | pending
  | inProgress
  | completed
  | failed
deriving DecidableEq, Repr, Inhabited

namespace Status

/-- The name of a status. -/
def name : Status → String
  | pending => "Pending"
  | inProgress => "InProgress"
  | completed => "Completed"
  | failed => "Failed"

/-- All statuses, in the order in which they are listed to readers. -/
def all : List Status := [pending, inProgress, completed, failed]

end Status

/-- One binary arithmetic step. -/
structure Operation where
  id : Id
  calculation : Option Id
  kind : Arithmetic
  left : Operand
  right : Operand
  status : Status
deriving DecidableEq, Repr, Inhabited

namespace Operation

/-- A new operation: pending, and bound to no calculation. -/
def new (id : Id) (kind : Arithmetic) (left right : Operand) : Operation :=
  ⟨id, none, kind, left, right, .pending⟩

/-- The identifiers that the operands refer to, the left one first. -/
def references (operation : Operation) : List Id :=
  [operation.left, operation.right].filterMap Operand.reference?

/-- The same operation bound to a calculation. -/
def bind (calculation : Id) (operation : Operation) : Operation :=
  { operation with calculation := some calculation }

end Operation

/-!
## Decompositions

A decomposition is a list of operations, each ahead of those that refer to it, together with the
operand that holds the value of the whole expression.
-/

/-- Operations in order of execution, and the operand that holds the final value. -/
structure Decomposition where
  operations : List Operation
  result : Operand
deriving DecidableEq, Repr, Inhabited

namespace Decomposition

/-- Nothing has to be executed: the result is a literal. -/
def isConstant (decomposition : Decomposition) : Bool :=
  decomposition.operations.isEmpty

/-- The same decomposition with all operations bound to a calculation. -/
def bind (calculation : Id) (decomposition : Decomposition) : Decomposition :=
  { decomposition with operations := decomposition.operations.map (Operation.bind calculation) }

end Decomposition

end Stepwise
