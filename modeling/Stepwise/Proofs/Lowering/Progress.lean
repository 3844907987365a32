import Stepwise.Lowering
import Stepwise.Proofs.Lowering.Recursion

/-!
# What one task does, and where a walk ends

`Lowering.Does` has one rule for each thing that a task can do; statements about all moments of a
walk go by its cases. A walk passes its states in one way only (`Lowering.run_of_passes`), and comes
to an end (`Lowering.exists_ends`), which is the outcome of taking the tree apart.
-/

namespace Stepwise

variable {limit : Limit} {supply : Supply}

namespace Lowering

/-- What a task makes of the tasks after it, the values at hand and the emitter. -/
inductive Does (limit : Limit) (supply : Supply) (tasks : List Task) :
    Task → List Operand → Emitter → Lowering → Prop where
  | literal {text : String} {values : List Operand} {emitter : Emitter} :
      Numeral.isNumeral text = true →
      Does limit supply tasks (.visit (.literal text)) values emitter
        ⟨tasks, .literal text :: values, emitter⟩
  | paren {inner : Expr} {values : List Operand} {emitter : Emitter} :
      Does limit supply tasks (.visit (.paren inner)) values emitter
        ⟨.visit inner :: tasks, values, emitter⟩
  | unary {op : Char} {operand : Expr} {values : List Operand} {emitter : Emitter} :
      Does limit supply tasks (.visit (.unary op operand)) values emitter
        ⟨.visit operand :: .negate op :: tasks, values, emitter⟩
  | binary {op : Char} {left right : Expr} {values : List Operand} {emitter : Emitter} :
      Does limit supply tasks (.visit (.binary op left right)) values emitter
        ⟨.visit left :: .visit right :: .apply op :: tasks, values, emitter⟩
  | fold {text : String} {values : List Operand} {emitter : Emitter} :
      Numeral.isNumeral text = true →
      Does limit supply tasks (.negate '-') (.literal text :: values) emitter
        ⟨tasks, .literal (Numeral.negate text) :: values, emitter⟩
  | subtract {operand : Operand} {values : List Operand} {emitter : Emitter} :
      operand.literal?.filter Numeral.isNumeral = none →
      Does limit supply tasks (.negate '-') (operand :: values) emitter
        ⟨tasks, (emitter.emit limit supply .subtraction (.literal "0") operand).1 :: values,
          (emitter.emit limit supply .subtraction (.literal "0") operand).2⟩
  | apply {op : Char} {kind : Arithmetic} {left right : Operand} {values : List Operand}
      {emitter : Emitter} : Arithmetic.ofSymbol? op = some kind →
      Does limit supply tasks (.apply op) (right :: left :: values) emitter
        ⟨tasks, (emitter.emit limit supply kind left right).1 :: values,
          (emitter.emit limit supply kind left right).2⟩

theorem does_of_perform {task : Task} {tasks : List Task} {values : List Operand}
    {emitter : Emitter} {next : Lowering}
    (h : perform limit supply task tasks values emitter = .ok next) :
    Does limit supply tasks task values emitter next := by
  unfold perform at h
  split at h
  next text =>
    split at h
    next numeral => cases h; exact .literal numeral
    next => cases h
  next => cases h; exact .paren
  next => cases h; exact .unary
  next => cases h; exact .binary
  next op =>
    split at h
    next operand values =>
      unfold Emitter.negate at h
      split at h
      next minus =>
        subst minus
        split at h
        next text folds =>
          obtain ⟨isLiteral, numeral⟩ := Option.filter_eq_some_iff.1 folds
          cases operand with
          | literal written =>
            cases isLiteral
            cases h
            exact .fold numeral
          | reference id => cases isLiteral
        next other => cases h; exact .subtract other
      next => cases h
    next => cases h
  next op =>
    split at h
    next right left values =>
      unfold Emitter.apply at h
      split at h
      next => cases h
      next kind known =>
        split at h
        next => cases h
        next => cases h; exact .apply known
    next => cases h

/-! ### The states of a walk -/

namespace Passes

variable {first middle last : Lowering} {passed later : List Lowering}

theorem append (before : Passes limit supply first passed middle)
    (after : Passes limit supply middle later last) :
    Passes limit supply first (passed ++ later) last := by
  induction after with
  | start => rwa [List.append_nil]
  | step _ done ih =>
    rw [← List.append_assoc]
    exact ih.step done

/-- A walk that goes on from its first state. -/
theorem cons {task : Task} {tasks : List Task} {values : List Operand} {emitter : Emitter}
    (done : perform limit supply task tasks values emitter = .ok middle)
    (after : Passes limit supply middle later last) :
    Passes limit supply ⟨task :: tasks, values, emitter⟩
      (⟨task :: tasks, values, emitter⟩ :: later) last :=
  (Passes.start.step done).append after

/-- What every step keeps holds in every state that a walk comes to. -/
theorem keeps {P : List Lowering → Lowering → Prop} (h : Passes limit supply first passed last)
    (start : P [] first)
    (step : ∀ passed task tasks values emitter next,
      P passed ⟨task :: tasks, values, emitter⟩ →
      Does limit supply tasks task values emitter next →
      P (passed ++ [⟨task :: tasks, values, emitter⟩]) next) : P passed last := by
  induction h with
  | start => exact start
  | step _ done ih => exact step _ _ _ _ _ _ ih (does_of_perform done)

end Passes

/-- The outcome of a walk is decided in each of its states. -/
theorem run_of_passes {first last : Lowering} {passed : List Lowering}
    (h : Passes limit supply first passed last) :
    run limit supply first = run limit supply last := by
  induction h with
  | start => rfl
  | step _ done ih => rw [ih, run_cons, done]; rfl

/-- Every walk comes to a state in which all tasks are done, or the next one meets a fault. -/
theorem exists_passes (limit : Limit) (supply : Supply) (walk : Lowering) :
    ∃ passed last, Passes limit supply walk passed last ∧
      ((last.tasks = [] ∧ run limit supply walk = .ok last) ∨
        ∃ task tasks values emitter fault, last = ⟨task :: tasks, values, emitter⟩ ∧
          perform limit supply task tasks values emitter = .error fault ∧
          run limit supply walk = .error fault) := by
  fun_induction run limit supply walk with
  | case1 walk done => exact ⟨[], walk, .start, .inl ⟨done, rfl⟩⟩
  | case2 walk task tasks pending next done ih =>
    obtain ⟨tasks', values, emitter⟩ := walk
    obtain rfl : tasks' = task :: tasks := pending
    obtain ⟨passed, last, passes, ended⟩ := ih
    exact ⟨_, last, passes.cons done, ended⟩
  | case3 walk task tasks pending fault failed =>
    obtain ⟨tasks', values, emitter⟩ := walk
    obtain rfl : tasks' = task :: tasks := pending
    exact ⟨[], _, .start, .inr ⟨task, tasks, values, emitter, fault, rfl, failed, rfl⟩⟩

/-- A walk ends well in the one state that it comes to with all tasks done. -/
theorem run_eq_ok_iff {walk last : Lowering} :
    run limit supply walk = .ok last ↔
      ∃ passed, Passes limit supply walk passed last ∧ last.tasks = [] := by
  constructor
  · intro ran
    obtain ⟨passed, reached, passes, ⟨done, same⟩ | ⟨_, _, _, _, _, -, -, failed⟩⟩ :=
      exists_passes limit supply walk
    · obtain rfl : reached = last := Except.ok.inj (same.symm.trans ran)
      exact ⟨passed, passes, done⟩
    · rw [ran] at failed
      cases failed
  · rintro ⟨passed, passes, done⟩
    obtain ⟨tasks, values, emitter⟩ := last
    obtain rfl : tasks = [] := done
    rw [run_of_passes passes, run_nil]

/-- What comes of the walk of a tree is what comes of the tree. -/
theorem lower_of_ends {e : Expr} {last : Lowering} {passed : List Lowering}
    {outcome : Except LoweringFault Decomposition}
    (passes : Passes limit supply (.start e) passed last) (ends : Ends limit supply last outcome) :
    e.lower limit supply = outcome := by
  unfold Expr.lower
  rw [run_of_passes passes]
  cases ends with
  | done => rw [run_nil]
  | failed fault =>
    rw [run_cons, fault]
    rfl

/-- The walk of a tree comes to an end, and to the outcome of taking the tree apart. -/
theorem exists_ends (limit : Limit) (supply : Supply) (e : Expr) :
    ∃ passed last, Passes limit supply (.start e) passed last ∧
      Ends limit supply last (e.lower limit supply) := by
  obtain ⟨passed, last, passes, ended⟩ := exists_passes limit supply (.start e)
  have finished {outcome : Except LoweringFault Decomposition}
      (ends : Ends limit supply last outcome) :
      ∃ passed last, Passes limit supply (.start e) passed last ∧
        Ends limit supply last (e.lower limit supply) :=
    ⟨passed, last, passes, (lower_of_ends passes ends).symm ▸ ends⟩
  rcases ended with ⟨done, -⟩ | ⟨task, tasks, values, emitter, fault, rfl, failed, -⟩
  · obtain ⟨tasks, values, emitter⟩ := last
    obtain rfl : tasks = [] := done
    exact finished .done
  · exact finished (.failed failed)

end Lowering

end Stepwise
