import Stepwise.Expr
import Stepwise.Limit
import Stepwise.Operation

/-!
# Taking a tree apart

`Lowering` is a machine that walks a tree with a stack of tasks and a stack of values. The left
subtree of an operator is finished before its right subtree is begun, and both before the
operator, so an operand refers only to operations that are already emitted. After the limit is
exceeded the walk goes on, so that any other fault of the tree is reported ahead of it.

`Expr.lower` is the whole run. The walk of a tree takes exactly `Expr.work` steps.
-/

namespace Stepwise

/-!
## Emitting operations

An emitter stores operations, counts how many were asked for, and counts the identifiers it drew.
Beyond the limit it only counts: it neither stores an operation nor draws an identifier, and the
operand it hands out refers to nothing.
-/

/-- Operations stored so far, emissions asked for, and identifiers drawn. -/
structure Emitter where
  operations : Array Operation
  count : Nat
  drawn : Nat
deriving DecidableEq, Repr

namespace Emitter

/-- The emitter before the first emission. -/
def empty : Emitter := ⟨#[], 0, 0⟩

/-- Emits an operation; yields the operand that refers to its result. -/
def emit (limit : Limit) (supply : Supply) (kind : Arithmetic) (left right : Operand)
    (emitter : Emitter) : Operand × Emitter :=
  let count := emitter.count + 1
  if limit.allows count then
    let id := supply emitter.drawn
    (.reference id,
      ⟨emitter.operations.push (.new id kind left right), count, emitter.drawn + 1⟩)
  else (.reference .nil, { emitter with count := count })

/-- The value of a sign and its operand. Signs of numerals are folded into them; any other operand
is subtracted from the literal `0`. -/
def negate (limit : Limit) (supply : Supply) (op : Char) (operand : Operand) (emitter : Emitter) :
    Except LoweringFault (Operand × Emitter) :=
  if op = '-' then
    match operand.literal?.filter Numeral.isNumeral with
    | some text => .ok (.literal (Numeral.negate text), emitter)
    | none => .ok (emitter.emit limit supply .subtraction (.literal "0") operand)
  else .error (.unsupportedSign op)

/-- The value of a binary operator and its operands. -/
def apply (limit : Limit) (supply : Supply) (op : Char) (left right : Operand)
    (emitter : Emitter) : Except LoweringFault (Operand × Emitter) :=
  match Arithmetic.ofSymbol? op with
  | none => .error (.unsupportedOperator op)
  | some kind =>
    if kind = .division ∧ right.isZeroLiteral = true then .error .zeroDivisor
    else .ok (emitter.emit limit supply kind left right)

end Emitter

/-! ## The walk -/

/-- What is left to do with a part of the tree. -/
inductive Task where
  | visit (e : Expr)
  | negate (op : Char)
  | apply (op : Char)
deriving DecidableEq, Repr

/-- The number of steps in which a tree is walked: one for each node, and one more for each
operator. -/
def Expr.work : Expr → Nat
  | .literal _ => 1
  | .paren inner => inner.work + 1
  | .unary _ operand => operand.work + 2
  | .binary _ left right => left.work + right.work + 2

/-- The number of steps that a task takes, together with all that it gives rise to. -/
def Task.work : Task → Nat
  | visit e => e.work
  | negate _ => 1
  | apply _ => 1

/-- The number of steps that several tasks take. -/
def Task.totalWork : List Task → Nat
  | [] => 0
  | task :: tasks => task.work + totalWork tasks

/-- A walk between two steps: what is left to do, the values at hand (the latest first), and the
emitter. -/
structure Lowering where
  tasks : List Task
  values : List Operand
  emitter : Emitter
deriving DecidableEq, Repr

namespace Lowering

/-- The walk of a tree before its first step. -/
def start (e : Expr) : Lowering := ⟨[.visit e], [], .empty⟩

/-- The number of steps that are left. -/
def work (walk : Lowering) : Nat := Task.totalWork walk.tasks

/-- Puts the value of a finished operator on the stack. -/
def resume (tasks : List Task) (values : List Operand) :
    Except LoweringFault (Operand × Emitter) → Except LoweringFault Lowering
  | .ok (value, emitter) => .ok ⟨tasks, value :: values, emitter⟩
  | .error fault => .error fault

/-- Does one task; `tasks` are those after it. -/
def perform (limit : Limit) (supply : Supply) (task : Task) (tasks : List Task)
    (values : List Operand) (emitter : Emitter) : Except LoweringFault Lowering :=
  match task with
  | .visit (.literal text) =>
    if Numeral.isNumeral text then .ok ⟨tasks, .literal text :: values, emitter⟩
    else .error (.notNumeric text)
  | .visit (.paren inner) => .ok ⟨.visit inner :: tasks, values, emitter⟩
  | .visit (.unary op operand) => .ok ⟨.visit operand :: .negate op :: tasks, values, emitter⟩
  | .visit (.binary op left right) =>
    .ok ⟨.visit left :: .visit right :: .apply op :: tasks, values, emitter⟩
  | .negate op =>
    match values with
    | operand :: values => resume tasks values (emitter.negate limit supply op operand)
    | [] => .error .withoutOperand
  | .apply op =>
    match values with
    | right :: left :: values => resume tasks values (emitter.apply limit supply op left right)
    | _ => .error .withoutOperand

theorem tasks_of_resume {tasks : List Task} {values : List Operand}
    {outcome : Except LoweringFault (Operand × Emitter)} {next : Lowering}
    (h : resume tasks values outcome = .ok next) : next.tasks = tasks := by
  unfold resume at h
  split at h <;> cases h
  rfl

/-- Each task that is done takes one step off what is left. -/
theorem work_of_perform {limit : Limit} {supply : Supply} {task : Task} {tasks : List Task}
    {values : List Operand} {emitter : Emitter} {next : Lowering}
    (h : perform limit supply task tasks values emitter = .ok next) :
    next.work + 1 = task.work + Task.totalWork tasks := by
  unfold perform at h
  split at h
  · split at h <;> cases h
    simp [work, Task.work, Expr.work, Nat.add_comm]
  · cases h
    simp only [work, Task.totalWork, Task.work, Expr.work]
    omega
  · cases h
    simp only [work, Task.totalWork, Task.work, Expr.work]
    omega
  · cases h
    simp only [work, Task.totalWork, Task.work, Expr.work]
    omega
  · split at h
    · simp [work, tasks_of_resume h, Task.work, Nat.add_comm]
    · cases h
  · split at h
    · simp [work, tasks_of_resume h, Task.work, Nat.add_comm]
    · cases h

/-- Does tasks until none is left. -/
def run (limit : Limit) (supply : Supply) (walk : Lowering) : Except LoweringFault Lowering :=
  match _ : walk.tasks with
  | [] => .ok walk
  | task :: tasks =>
    match _ : perform limit supply task tasks walk.values walk.emitter with
    | .ok next => run limit supply next
    | .error fault => .error fault
termination_by walk.work
decreasing_by
  have := work_of_perform ‹perform limit supply task tasks walk.values walk.emitter = .ok next›
  simp only [work, ‹walk.tasks = task :: tasks›, Task.totalWork] at this ⊢
  omega

/-- The decomposition that a finished walk yields. The limit is checked last. -/
def finish (limit : Limit) (walk : Lowering) : Except LoweringFault Decomposition :=
  match walk.values with
  | [] => .error .withoutOperand
  | result :: _ =>
    match limit.check walk.emitter.count with
    | .ok () => .ok ⟨walk.emitter.operations.toList, result⟩
    | .error fault => .error fault

end Lowering

/-- Takes a tree apart into operations whose identifiers are drawn from the supply in order. -/
def Expr.lower (limit : Limit) (supply : Supply) (e : Expr) :
    Except LoweringFault Decomposition :=
  match Lowering.run limit supply (.start e) with
  | .ok walk => walk.finish limit
  | .error fault => .error fault

/-!
## A walk from state to state

`Lowering.Passes` follows a walk one task at a time and keeps the states that it went on from, so
that a statement can be about every moment of a walk, also of one that fails. `Lowering.Ends` is
what comes of a walk in a state from which it does not go on. Beside the states stands what a whole
walk has to do: the nodes of a tree, and the values that pending tasks take and leave.
-/

namespace Expr

/-- The nodes of a tree, each ahead of its parts, and a left part ahead of a right one. -/
def nodes : Expr → List Expr
  | literal text => [literal text]
  | paren inner => paren inner :: inner.nodes
  | unary op operand => unary op operand :: operand.nodes
  | binary op left right => binary op left right :: (left.nodes ++ right.nodes)

/-- The root is a sign. -/
def isUnary : Expr → Bool
  | unary _ _ => true
  | _ => false

/-- The root is a binary operator. -/
def isBinary : Expr → Bool
  | binary _ _ _ => true
  | _ => false

end Expr

namespace Task

/-- The node that the task visits, if it visits one. -/
def visited? : Task → Option Expr
  | visit e => some e
  | _ => none

/-- How many values are at hand when all the tasks are done, if there are `height` of them before.
A visit comes to one value, and an operator puts one in the place of its operands. There is no
answer if some operator lacks an operand. -/
def heightAfter? : List Task → Nat → Option Nat
  | [], height => some height
  | visit _ :: tasks, height => heightAfter? tasks (height + 1)
  | negate _ :: tasks, height + 1 => heightAfter? tasks (height + 1)
  | apply _ :: tasks, height + 2 => heightAfter? tasks (height + 1)
  | _, _ => none

end Task

namespace Lowering

/-- The task that is done next. -/
def next? (walk : Lowering) : Option Task := walk.tasks.head?

/-- The next task asks for an operation: it is a sign before a reference, or a binary operator. -/
def asks (walk : Lowering) : Bool :=
  match walk.tasks, walk.values with
  | .negate _ :: _, .reference _ :: _ => true
  | .apply _ :: _, _ => true
  | _, _ => false

/-- The walk has come from the state `first` to another one, task by task; it went on from the
states `passed`, in this order. -/
inductive Passes (limit : Limit) (supply : Supply) (first : Lowering) :
    List Lowering → Lowering → Prop where
  | start : Passes limit supply first [] first
  | step {passed : List Lowering} {task : Task} {tasks : List Task} {values : List Operand}
      {emitter : Emitter} {next : Lowering} :
      Passes limit supply first passed ⟨task :: tasks, values, emitter⟩ →
      perform limit supply task tasks values emitter = .ok next →
      Passes limit supply first (passed ++ [⟨task :: tasks, values, emitter⟩]) next

/-- The walk does not go on: all tasks are done, or the next one meets a fault. -/
inductive Ends (limit : Limit) (supply : Supply) :
    Lowering → Except LoweringFault Decomposition → Prop where
  | done {values : List Operand} {emitter : Emitter} :
      Ends limit supply ⟨[], values, emitter⟩ (finish limit ⟨[], values, emitter⟩)
  | failed {task : Task} {tasks : List Task} {values : List Operand} {emitter : Emitter}
      {fault : LoweringFault} : perform limit supply task tasks values emitter = .error fault →
      Ends limit supply ⟨task :: tasks, values, emitter⟩ (.error fault)

end Lowering

end Stepwise
