import Stepwise.Proofs.Lowering.Progress

/-!
# Every operator finds its operands

The pending tasks fix in advance what becomes of the stack of values: they take as many as there
are and leave one (`Lowering.Does.heightAfter?_eq`). They also fix all that is still to be done:
the tasks that were done, followed by the pending ones and all that these give rise to, are the
same in every state of a walk (`Lowering.itinerary_of_passes`). Main statement: no operator lacks an
operand, and a walk that meets no fault visits each node once (`Expr.stack_suffices`).
-/

namespace Stepwise

variable {limit : Limit} {supply : Supply}

namespace Expr

/-- The tasks of the whole walk of a tree, in the order in which they are done. -/
def itinerary : Expr → List Task
  | literal text => [.visit (literal text)]
  | paren inner => .visit (paren inner) :: inner.itinerary
  | unary op operand => .visit (unary op operand) :: (operand.itinerary ++ [.negate op])
  | binary op left right =>
    .visit (binary op left right) :: (left.itinerary ++ right.itinerary ++ [.apply op])

/-- A whole walk visits the nodes in their order. -/
@[simp] theorem filterMap_itinerary (e : Expr) : e.itinerary.filterMap Task.visited? = e.nodes := by
  induction e with
  | literal text => rfl
  | paren inner ih => exact congrArg (_ :: ·) ih
  | unary op operand ih => simp [itinerary, nodes, Task.visited?, ih]
  | binary op left right ihl ihr => simp [itinerary, nodes, Task.visited?, ihl, ihr]

/-- A whole walk has one task for each node, and one more for each operator. -/
theorem length_itinerary (e : Expr) :
    e.itinerary.length = e.nodes.length + e.nodes.countP isUnary + e.nodes.countP isBinary := by
  induction e with
  | literal text => rfl
  | paren inner ih =>
    simp only [itinerary, nodes, List.length_cons, List.countP_cons, isUnary, isBinary, ih]
    simp only [Bool.false_eq_true, if_false]
    omega
  | unary op operand ih =>
    simp only [itinerary, nodes, List.length_cons, List.length_append, List.length_nil,
      List.countP_cons, isUnary, isBinary, ih]
    simp only [Bool.false_eq_true, if_false, if_true]
    omega
  | binary op left right ihl ihr =>
    simp only [itinerary, nodes, List.length_cons, List.length_append, List.length_nil,
      List.countP_cons, List.countP_append, isUnary, isBinary, ihl, ihr]
    simp only [Bool.false_eq_true, if_false, if_true]
    omega

end Expr

/-- A task with all that it gives rise to. -/
def Task.itinerary : Task → List Task
  | visit e => e.itinerary
  | task => [task]

namespace Lowering

variable {task : Task} {tasks : List Task} {values : List Operand} {emitter : Emitter}
  {next walk : Lowering} {passed : List Lowering} {e : Expr}

/-- A task leaves to do what it gives rise to. -/
theorem Does.itinerary_eq (does : Does limit supply tasks task values emitter next) :
    (task :: tasks).flatMap Task.itinerary = task :: next.tasks.flatMap Task.itinerary := by
  cases does <;> simp [Task.itinerary, Expr.itinerary]

/-- A task changes the stack as was fixed in advance. -/
theorem Does.heightAfter?_eq (does : Does limit supply tasks task values emitter next) :
    Task.heightAfter? next.tasks next.values.length =
      Task.heightAfter? (task :: tasks) values.length := by
  cases does <;> rfl

/-- What was done and what is left to do make up the whole walk. -/
theorem itinerary_of_passes (h : Passes limit supply (.start e) passed walk) :
    passed.filterMap next? ++ walk.tasks.flatMap Task.itinerary = e.itinerary := by
  refine h.keeps (P := fun passed walk =>
    passed.filterMap next? ++ walk.tasks.flatMap Task.itinerary = e.itinerary) ?_ ?_
  · simp [start, Task.itinerary]
  · intro passed task tasks values emitter next before does
    rw [← before, does.itinerary_eq]
    simp [next?]

/-- A walk goes on only from states in which there is something to do. -/
theorem length_of_passes (h : Passes limit supply (.start e) passed walk) :
    (passed.filterMap next?).length = passed.length := by
  induction h with
  | start => rfl
  | step _ _ ih => simp [ih, next?]

/-- The pending tasks leave one value. -/
theorem heightAfter?_of_passes (h : Passes limit supply (.start e) passed walk) :
    Task.heightAfter? walk.tasks walk.values.length = some 1 :=
  h.keeps (P := fun _ walk => Task.heightAfter? walk.tasks walk.values.length = some 1) rfl
    fun _ _ _ _ _ _ before does => does.heightAfter?_eq.trans before

theorem exists_value (done : walk.tasks = [])
    (leaves : Task.heightAfter? walk.tasks walk.values.length = some 1) :
    ∃ value, walk.values = [value] := by
  rw [done] at leaves
  exact List.length_eq_one_iff.1 (Option.some.inj leaves)

theorem error_of_resume {outcome : Except LoweringFault (Operand × Emitter)}
    {fault : LoweringFault} (h : resume tasks values outcome = .error fault) :
    outcome = .error fault := by
  cases outcome with
  | ok result => cases h
  | error other => cases h; rfl

theorem negate_ne_withoutOperand (op : Char) (operand : Operand) :
    emitter.negate limit supply op operand ≠ .error .withoutOperand := by
  unfold Emitter.negate
  split
  next => split <;> exact nofun
  next => exact nofun

theorem apply_ne_withoutOperand (op : Char) (left right : Operand) :
    emitter.apply limit supply op left right ≠ .error .withoutOperand := by
  unfold Emitter.apply
  split
  next => exact nofun
  next => split <;> exact nofun

/-- Where the pending tasks leave something, the next one finds its operands. -/
theorem perform_ne_withoutOperand {height : Nat}
    (leaves : Task.heightAfter? (task :: tasks) values.length = some height) :
    perform limit supply task tasks values emitter ≠ .error .withoutOperand := by
  cases task with
  | visit e =>
    cases e with
    | literal text =>
      rw [perform]
      split <;> exact nofun
    | paren | unary | binary => exact nofun
  | negate op =>
    match values, leaves with
    | operand :: values, _ =>
      exact fun failed => negate_ne_withoutOperand op operand (error_of_resume failed)
  | apply op =>
    match values, leaves with
    | right :: left :: values, _ =>
      exact fun failed => apply_ne_withoutOperand op left right (error_of_resume failed)

/-! ### What a visit comes to -/

/-- What the visit of a tree comes to, whatever else is pending or at hand: a value, which it adds
to the stack, or a fault. -/
def Visits (limit : Limit) (supply : Supply) (e : Expr) (emitter : Emitter) :
    Except LoweringFault (Operand × Emitter) → Prop
  | .ok (value, after) => ∀ tasks values, ∃ passed,
    Passes limit supply ⟨.visit e :: tasks, values, emitter⟩ passed ⟨tasks, value :: values, after⟩
  | .error fault => ∀ tasks values,
    run limit supply ⟨.visit e :: tasks, values, emitter⟩ = .error fault

namespace Visits

variable {text : String} {inner operand left right : Expr} {op : Char} {fault : LoweringFault}
  {emitter between after : Emitter} {value first second : Operand}

theorem literal (text : String) (emitter : Emitter) :
    Visits limit supply (.literal text) emitter
      (if Numeral.isNumeral text then .ok (.literal text, emitter)
        else .error (.notNumeric text)) := by
  by_cases numeral : Numeral.isNumeral text = true
  · rw [if_pos numeral]
    exact fun tasks values => ⟨_, .cons (if_pos numeral) .start⟩
  · rw [if_neg numeral]
    intro tasks values
    rw [run_cons, perform, if_neg numeral]
    rfl

theorem paren {outcome : Except LoweringFault (Operand × Emitter)}
    (visits : Visits limit supply inner emitter outcome) :
    Visits limit supply (.paren inner) emitter outcome := by
  cases outcome with
  | ok result =>
    intro tasks values
    obtain ⟨passed, passes⟩ := visits tasks values
    exact ⟨_, .cons rfl passes⟩
  | error fault =>
    intro tasks values
    rw [run_cons]
    exact visits tasks values

theorem unary (visits : Visits limit supply operand emitter (.ok (value, after))) (op : Char) :
    Visits limit supply (.unary op operand) emitter (after.negate limit supply op value) := by
  cases signed : after.negate limit supply op value with
  | ok result =>
    intro tasks values
    obtain ⟨passed, passes⟩ := visits (.negate op :: tasks) values
    refine ⟨_, .cons rfl (passes.append (.cons ?_ .start))⟩
    rw [perform, signed]
    rfl
  | error fault =>
    intro tasks values
    obtain ⟨passed, passes⟩ := visits (.negate op :: tasks) values
    rw [run_of_passes (.cons rfl passes), run_cons, perform, signed]
    rfl

theorem unary_fault (visits : Visits limit supply operand emitter (.error fault)) (op : Char) :
    Visits limit supply (.unary op operand) emitter (.error fault) := by
  intro tasks values
  rw [run_cons]
  exact visits (.negate op :: tasks) values

theorem binary (before : Visits limit supply left emitter (.ok (first, between)))
    (visits : Visits limit supply right between (.ok (second, after))) (op : Char) :
    Visits limit supply (.binary op left right) emitter
      (after.apply limit supply op first second) := by
  have reaches (tasks : List Task) (values : List Operand) :
      ∃ passed, Passes limit supply ⟨.visit (.binary op left right) :: tasks, values, emitter⟩
        passed ⟨.apply op :: tasks, second :: first :: values, after⟩ := by
    obtain ⟨inLeft, passesLeft⟩ := before (.visit right :: .apply op :: tasks) values
    obtain ⟨inRight, passesRight⟩ := visits (.apply op :: tasks) (first :: values)
    exact ⟨_, .cons rfl (passesLeft.append passesRight)⟩
  cases applied : after.apply limit supply op first second with
  | ok result =>
    intro tasks values
    obtain ⟨passed, passes⟩ := reaches tasks values
    refine ⟨_, passes.append (.cons ?_ .start)⟩
    rw [perform, applied]
    rfl
  | error fault =>
    intro tasks values
    obtain ⟨passed, passes⟩ := reaches tasks values
    rw [run_of_passes passes, run_cons, perform, applied]
    rfl

theorem binary_fault_left (visits : Visits limit supply left emitter (.error fault)) (op : Char)
    (right : Expr) : Visits limit supply (.binary op left right) emitter (.error fault) := by
  intro tasks values
  rw [run_cons]
  exact visits (.visit right :: .apply op :: tasks) values

theorem binary_fault_right (before : Visits limit supply left emitter (.ok (first, between)))
    (visits : Visits limit supply right between (.error fault)) (op : Char) :
    Visits limit supply (.binary op left right) emitter (.error fault) := by
  intro tasks values
  obtain ⟨passed, passes⟩ := before (.visit right :: .apply op :: tasks) values
  rw [run_of_passes (.cons rfl passes)]
  exact visits (.apply op :: tasks) (first :: values)

end Visits

/-- Every visit comes to something. -/
theorem exists_visits (limit : Limit) (supply : Supply) (e : Expr) (emitter : Emitter) :
    ∃ outcome, Visits limit supply e emitter outcome := by
  induction e generalizing emitter with
  | literal text => exact ⟨_, .literal text emitter⟩
  | paren inner ih =>
    obtain ⟨outcome, visits⟩ := ih emitter
    exact ⟨outcome, visits.paren⟩
  | unary op operand ih =>
    obtain ⟨fault | ⟨value, after⟩, visits⟩ := ih emitter
    · exact ⟨_, visits.unary_fault op⟩
    · exact ⟨_, visits.unary op⟩
  | binary op left right ihl ihr =>
    obtain ⟨fault | ⟨first, between⟩, before⟩ := ihl emitter
    · exact ⟨_, before.binary_fault_left op right⟩
    obtain ⟨fault | ⟨second, after⟩, visits⟩ := ihr between
    · exact ⟨_, before.binary_fault_right visits op⟩
    · exact ⟨_, before.binary visits op⟩

end Lowering

/-- What holds in a state of a walk of the tree. The walk has gone on from the states `passed`. -/
structure Lowering.IsBalanced (limit : Limit) (supply : Supply) (e : Expr) (passed : List Lowering)
    (walk : Lowering) : Prop where
  /-- The values are enough for all pending tasks, and one is left after them. -/
  height : Task.heightAfter? walk.tasks walk.values.length = some 1
  /-- When nothing is pending, there is one value. -/
  single : walk.tasks = [] → ∃ value, walk.values = [value]
  /-- The next task finds its operands. -/
  operands : ∀ task rest, walk.tasks = task :: rest →
    perform limit supply task rest walk.values walk.emitter ≠ .error .withoutOperand
  /-- A pending visit adds one value, unless the tree that it visits meets a fault by itself. -/
  visit : ∀ inner rest, walk.tasks = .visit inner :: rest →
    (∃ more value emitter, Passes limit supply walk more ⟨rest, value :: walk.values, emitter⟩) ∨
      ∃ fault, ∀ tasks values,
        run limit supply ⟨.visit inner :: tasks, values, walk.emitter⟩ = .error fault
  /-- The nodes are visited in their order, and none of them twice. -/
  visited : (passed.filterMap next?).filterMap Task.visited? <+: e.nodes

/-- What holds of the walk of the tree as a whole. -/
structure Expr.HasBalancedWalk (limit : Limit) (supply : Supply) (e : Expr) : Prop where
  /-- The stack of values is in order at every moment, also of a walk that fails. -/
  balanced : ∀ passed walk, Lowering.Passes limit supply (.start e) passed walk →
    walk.IsBalanced limit supply e passed
  /-- No operator lacks an operand. -/
  operands : e.lower limit supply ≠ .error .withoutOperand
  /-- The walks without a fault are those that come to a state in which nothing is pending. -/
  run : ∀ last, Lowering.run limit supply (.start e) = .ok last ↔
    ∃ passed, Lowering.Passes limit supply (.start e) passed last ∧ last.tasks = []
  /-- Such a walk takes one step for each node, and one more for each operator. -/
  steps : ∀ passed last, Lowering.Passes limit supply (.start e) passed last → last.tasks = [] →
    passed.length = e.nodes.length + e.nodes.countP isUnary + e.nodes.countP isBinary
  /-- Such a walk visits every node once. -/
  visited : ∀ passed last, Lowering.Passes limit supply (.start e) passed last →
    last.tasks = [] → (passed.filterMap Lowering.next?).filterMap Task.visited? = e.nodes

theorem Lowering.isBalanced_of_passes {e : Expr} {passed : List Lowering} {walk : Lowering}
    (passes : Passes limit supply (.start e) passed walk) :
    walk.IsBalanced limit supply e passed := by
  have leaves := heightAfter?_of_passes passes
  constructor
  case height => exact leaves
  case single => exact fun done => exists_value done leaves
  case operands =>
    intro task rest pending
    rw [pending] at leaves
    exact perform_ne_withoutOperand leaves
  case visit =>
    intro inner rest pending
    obtain ⟨tasks, values, emitter⟩ := walk
    obtain rfl : tasks = .visit inner :: rest := pending
    obtain ⟨fault | ⟨value, after⟩, visits⟩ := exists_visits limit supply inner emitter
    · exact .inr ⟨fault, visits⟩
    · obtain ⟨more, goesOn⟩ := visits rest values
      exact .inl ⟨more, value, after, goesOn⟩
  case visited =>
    rw [← e.filterMap_itinerary, ← itinerary_of_passes passes, List.filterMap_append]
    exact List.prefix_append _ _

theorem Lowering.itinerary_of_done {e : Expr} {passed : List Lowering} {last : Lowering}
    (passes : Passes limit supply (.start e) passed last) (done : last.tasks = []) :
    passed.filterMap next? = e.itinerary := by
  have whole := itinerary_of_passes passes
  rwa [done, List.flatMap_nil, List.append_nil] at whole

theorem Expr.lower_ne_withoutOperand (e : Expr) :
    e.lower limit supply ≠ .error .withoutOperand := by
  obtain ⟨passed, last, passes, ends⟩ := Lowering.exists_ends limit supply e
  have leaves := Lowering.heightAfter?_of_passes passes
  generalize e.lower limit supply = outcome at ends
  cases ends with
  | @done values emitter =>
    obtain ⟨value, rfl⟩ : ∃ value, values = [value] := Lowering.exists_value rfl leaves
    dsimp only [Lowering.finish, Limit.check]
    split
    next => exact nofun
    next refused =>
      split at refused <;> cases refused
      exact nofun
  | failed fault =>
    rintro ⟨rfl⟩
    exact Lowering.perform_ne_withoutOperand leaves fault

/-- In every state of a walk the values at hand are enough for all pending operators, and one value
is left when nothing is pending. So no operator lacks an operand. A walk that meets no fault takes
one step for each node and one more for each operator, and visits each node once; one that fails
visits no node twice. -/
theorem Expr.stack_suffices (limit : Limit) (supply : Supply) (e : Expr) :
    e.HasBalancedWalk limit supply where
  balanced _ _ := Lowering.isBalanced_of_passes
  operands := e.lower_ne_withoutOperand
  run _ := Lowering.run_eq_ok_iff
  steps passed last passes done := by
    rw [← Lowering.length_of_passes passes, Lowering.itinerary_of_done passes done]
    exact e.length_itinerary
  visited passed last passes done := by
    rw [Lowering.itinerary_of_done passes done]
    exact e.filterMap_itinerary

/-- A product with a sign and a group takes ten steps: one for each of its seven nodes, and one more
for each of its three operators. -/
theorem Expr.stack_suffices_product :
    let e : Expr := .binary '*'
      (.unary '-' (.paren (.binary '+' (.literal "1") (.literal "2")))) (.literal "3")
    ∃ passed last, Lowering.Passes .standard (.counting ⟨10⟩) (.start e) passed last ∧
      last.tasks = [] ∧ (∃ value, last.values = [value]) ∧ passed.length = 10 ∧
      (passed.filterMap Lowering.next?).filterMap Task.visited? = e.nodes := by
  intro e
  have ran : Lowering.run .standard (.counting ⟨10⟩) (.start e) =
      .ok ⟨[], [.reference ⟨12⟩],
        ⟨#[.new ⟨10⟩ .addition (.literal "1") (.literal "2"),
          .new ⟨11⟩ .subtraction (.literal "0") (.reference ⟨10⟩),
          .new ⟨12⟩ .multiplication (.reference ⟨11⟩) (.literal "3")], 3, 3⟩⟩ := by
    decide +kernel
  have balanced := e.stack_suffices .standard (.counting ⟨10⟩)
  obtain ⟨passed, passes, done⟩ := (balanced.run _).1 ran
  exact ⟨passed, _, passes, done, (balanced.balanced _ _ passes).single done,
    balanced.steps _ _ passes done, balanced.visited _ _ passes done⟩

end Stepwise
