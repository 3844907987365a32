import Stepwise.Client
import Stepwise.OperationOrder

/-!
# Shared lists of operations

Several parties work on one list: expressions are decomposed into it, single operations are added,
and operations are bound, marked and rearranged. `Edit.apply` is one such step. A decomposition
that fails adds nothing.
-/

namespace Stepwise

/-- One of the two operands of an operation. -/
inductive Slot where
  | left
  | right
deriving DecidableEq, Repr

/-- A step of work on a list of operations. New identifiers are part of the step. -/
inductive Edit where
  /-- Adds the operations of an expression. -/
  | decompose (limit : Limit) (supply : Supply) (text : String)
  /-- Adds an operation as it is. -/
  | push (operation : Operation)
  /-- Adds a new operation. -/
  | create (id : Id) (kind : Arithmetic) (left right : Operand)
  /-- Binds all operations to a calculation. -/
  | bind (calculation : Id)
  /-- Marks an operation. -/
  | setStatus (index : Nat) (status : Status)
  /-- Replaces an operand. -/
  | setOperand (index : Nat) (slot : Slot) (operand : Operand)
  /-- Exchanges two operations. -/
  | swap (first second : Nat)
  /-- Takes an operation out. -/
  | remove (index : Nat)
  /-- Adds a second copy of an operation, under the same identifier. -/
  | copy (index : Nat)

namespace Edit

/-- The operation with one operand replaced. -/
def replaceOperand (slot : Slot) (operand : Operand) (operation : Operation) : Operation :=
  match slot with
  | .left => { operation with left := operand }
  | .right => { operation with right := operand }

/-- The list with two of its operations exchanged. -/
def exchange (operations : List Operation) (first second : Nat) : List Operation :=
  match operations[first]?, operations[second]? with
  | some a, some b => (operations.set first b).set second a
  | _, _ => operations

/-- The list after a step. Places outside the list change nothing. -/
def apply (edit : Edit) (operations : List Operation) : List Operation :=
  match edit with
  | decompose limit supply text =>
    match Stepwise.decompose limit supply text with
    | .ok decomposition => operations ++ decomposition.operations
    | .error _ => operations
  | push operation => operations ++ [operation]
  | create id kind left right => operations ++ [.new id kind left right]
  | bind calculation => operations.map (Operation.bind calculation)
  | setStatus index status => operations.modify index fun operation => { operation with status }
  | setOperand index slot operand => operations.modify index (replaceOperand slot operand)
  | swap first second => exchange operations first second
  | remove index => operations.eraseIdx index
  | copy index => operations ++ operations[index]?.toList

end Edit

end Stepwise
