import Stepwise.Expr
import Stepwise.Numeral
import Stepwise.Operation

/-!
# Values of expressions and of operations

A tree has a value by ordinary arithmetic, and a list of operations by execution from front to
back.
-/

namespace Stepwise

/-!
## The value of an expression

Ordinary arithmetic on exact rationals. A division by zero has no value, nor has an operator that
no arithmetic stands for, nor anything that contains either.
-/

/-- The result of one arithmetic step, if it is defined. -/
def Arithmetic.value? : Arithmetic → Rat → Rat → Option Rat
  | addition, x, y => some (x + y)
  | subtraction, x, y => some (x - y)
  | multiplication, x, y => some (x * y)
  | division, x, y => if y = 0 then none else some (x / y)

namespace Expr

/-- The value of a tree, if it has one. Parentheses mean nothing, and a minus sign negates. -/
def value? : Expr → Option Rat
  | literal text => some (Numeral.value text)
  | paren inner => inner.value?
  | unary op operand =>
    if op = '-' then operand.value?.map (- ·)
    else if op = '+' then operand.value?
    else none
  | binary op left right =>
    match Arithmetic.ofSymbol? op, left.value?, right.value? with
    | some kind, some x, some y => kind.value? x y
    | _, _, _ => none

end Expr

/-!
## Executing operations

An executor goes through a list of operations from front to back and stores each result under the
identifier of its operation. A result that is undefined is stored as such and makes undefined
whatever is computed from it; an identifier that is read before it is stored, or stored twice,
stops the execution.
-/

/-- The reason why an execution stops. -/
inductive ExecutionFault where
  /-- An operand refers to a result that is not stored. -/
  | notStored (id : Id)
  /-- A result is already stored under the identifier. -/
  | alreadyStored (id : Id)
deriving DecidableEq, Repr

/-- The results that are stored. A stored result is a number or undefined. -/
abbrev Results := Id → Option (Option Rat)

namespace Results

/-- Nothing is stored. -/
def empty : Results := fun _ => none

/-- One more result. -/
def store (id : Id) (result : Option Rat) (results : Results) : Results :=
  fun other => if other = id then some result else results other

@[simp] theorem store_self (id : Id) (result : Option Rat) (results : Results) :
    results.store id result id = some result := by
  simp [store]

theorem store_of_ne {id other : Id} (result : Option Rat) (results : Results) (h : other ≠ id) :
    results.store id result other = results other := by
  simp [store, h]

end Results

/-- What an operand stands for. -/
def Operand.resolve (results : Results) : Operand → Except ExecutionFault (Option Rat)
  | .literal text => .ok (some (Numeral.value text))
  | .reference id =>
    match results id with
    | some result => .ok result
    | none => .error (.notStored id)

/-- Computes one operation and stores its result. -/
def Operation.execute (results : Results) (operation : Operation) :
    Except ExecutionFault Results :=
  match operation.left.resolve results, operation.right.resolve results, results operation.id with
  | .error fault, _, _ => .error fault
  | _, .error fault, _ => .error fault
  | _, _, some _ => .error (.alreadyStored operation.id)
  | .ok left, .ok right, none =>
    .ok (results.store operation.id
      (left.bind fun x => right.bind fun y => operation.kind.value? x y))

/-- Executes operations from front to back. -/
def execute : Results → List Operation → Except ExecutionFault Results
  | results, [] => .ok results
  | results, operation :: rest =>
    match operation.execute results with
    | .ok results => execute results rest
    | .error fault => .error fault

theorem execute_append (results : Results) (before after : List Operation) :
    execute results (before ++ after) =
      (execute results before).bind fun results => execute results after := by
  induction before generalizing results with
  | nil => rfl
  | cons operation rest ih =>
    simp only [List.cons_append, execute]
    cases operation.execute results with
    | ok next => exact ih next
    | error fault => rfl

/-- The value of a decomposition: its operations are executed and its result is looked up. -/
def Decomposition.outcome (decomposition : Decomposition) : Except ExecutionFault (Option Rat) :=
  match execute .empty decomposition.operations with
  | .ok results => decomposition.result.resolve results
  | .error fault => .error fault

end Stepwise
