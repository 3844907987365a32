import Stepwise.Lowering
import Stepwise.Lowering.Outcome
import Stepwise.Proofs.Numeral
import Stepwise.Proofs.Outcome

/-!
# The walk as a recursion

A walk that visits a tree does, before it turns to the tasks that were pending, exactly what the
recursion `Expr.plainValue` does (`Lowering.run_visit`). The two keep their books differently: a
walk counts the identifiers it draws, while the recursion reads their number off the list of
operations. `Tally.emitter` translates. A sign looks at the text of its operand to see whether it
can be folded, so the simulation needs to know that all texts at hand are numerals. Main statement:
taking a tree apart by the walk and by the recursion is the same (`Expr.lower_eq_plainLower`).
-/

namespace Stepwise

/-- The operand is a reference, or its text is a numeral. -/
def Operand.isWellSpelt : Operand → Bool
  | literal text => Numeral.isNumeral text
  | reference _ => true

/-- Nothing is kept or asked for yet. -/
def Tally.empty : Tally := ⟨[], 0⟩

/-- The emitter with the operations of a tally, each of which drew one identifier. -/
def Tally.emitter (tally : Tally) : Emitter := ⟨tally.kept.toArray, tally.asked, tally.kept.length⟩

/-- The emitter of the tally in an outcome of the recursion. -/
def Tally.emitterOf : Operand × Tally → Operand × Emitter
  | (operand, tally) => (operand, tally.emitter)

variable {limit : Limit} {supply : Supply}

theorem Tally.emit_emitter (kind : Arithmetic) (left right : Operand) (tally : Tally) :
    tally.emitter.emit limit supply kind left right =
      emitterOf (tally.ask limit supply kind left right) := by
  unfold Emitter.emit ask
  by_cases room : tally.asked < limit.maxOperations
  · have allowed : limit.allows (tally.asked + 1) = true := Limit.allows_iff.2 room
    simp [emitter, emitterOf, room, allowed]
  · have refused : limit.allows (tally.asked + 1) = false := by
      rw [← Bool.not_eq_true, Limit.allows_iff]; omega
    simp [emitter, emitterOf, room, refused]

theorem Tally.negate_emitter {operand : Operand} (spelt : operand.isWellSpelt = true) (op : Char)
    (tally : Tally) :
    tally.emitter.negate limit supply op operand =
      (sign limit supply op (operand, tally)).map emitterOf := by
  unfold Emitter.negate
  dsimp only [sign]
  by_cases minus : op = '-'
  · rw [if_pos minus, if_neg (not_not_intro minus)]
    cases operand with
    | literal text =>
      have folds : (some text).filter Numeral.isNumeral = some text := by
        rw [Option.filter_eq_some_iff]; exact ⟨rfl, spelt⟩
      simp only [Operand.literal?, folds]
      rfl
    | reference id => exact congrArg Except.ok (emit_emitter _ _ _ _)
  · rw [if_neg minus, if_pos minus]
    rfl

/-- An operator is the symbol of the kind that it stands for. -/
theorem Arithmetic.symbol_of_ofSymbol? {op : Char} {kind : Arithmetic}
    (h : ofSymbol? op = some kind) : kind.symbol = op := by
  unfold ofSymbol? at h
  split at h
  next eq => cases h; exact eq.symm
  split at h
  next eq => cases h; exact eq.symm
  split at h
  next eq => cases h; exact eq.symm
  split at h
  next eq => cases h; exact eq.symm
  next => cases h

/-- The division sign stands for division, and no other operator does. -/
theorem Arithmetic.eq_division_iff {op : Char} {kind : Arithmetic} (h : ofSymbol? op = some kind) :
    kind = division ↔ op = '/' := by
  rw [← symbol_of_ofSymbol? h]
  cases kind <;> decide

theorem Operand.isZeroLiteral_iff {operand : Operand} :
    operand.isZeroLiteral = true ↔ operand = literal "0" := by
  cases operand <;> simp [isZeroLiteral, literal?]

theorem Tally.apply_emitter (op : Char) (left right : Operand) (tally : Tally) :
    tally.emitter.apply limit supply op left right =
      (combine limit supply op left (right, tally)).map emitterOf := by
  unfold Emitter.apply
  dsimp only [combine]
  cases known : Arithmetic.ofSymbol? op with
  | none => rfl
  | some kind =>
    simp only [Arithmetic.eq_division_iff known, Operand.isZeroLiteral_iff]
    by_cases zero : op = '/' ∧ right = .literal "0"
    · rw [if_pos zero, if_pos zero]; rfl
    · rw [if_neg zero, if_neg zero]; exact congrArg Except.ok (emit_emitter _ _ _ _)

/-- Whatever is asked for, the answer is a reference. -/
theorem Tally.ask_fst (limit : Limit) (supply : Supply) (kind : Arithmetic)
    (left right : Operand) (tally : Tally) :
    ∃ id, (tally.ask limit supply kind left right).1 = .reference id := by
  unfold ask
  split <;> exact ⟨_, rfl⟩

@[simp] theorem Tally.asked_ask (kind : Arithmetic) (left right : Operand) (tally : Tally) :
    (tally.ask limit supply kind left right).2.asked = tally.asked + 1 := by
  unfold ask
  split <;> rfl

/-- The recursion finds a value for a tree, one rule for each way to find it. -/
inductive Lowers (limit : Limit) (supply : Supply) : Expr → Tally → Operand → Tally → Prop where
  | literal {text : String} {tally : Tally} : Numeral.isNumeral text = true →
      Lowers limit supply (.literal text) tally (.literal text) tally
  | paren {inner : Expr} {tally next : Tally} {operand : Operand} :
      Lowers limit supply inner tally operand next →
      Lowers limit supply (.paren inner) tally operand next
  | fold {inner : Expr} {tally next : Tally} {text : String} :
      Lowers limit supply inner tally (.literal text) next →
      Lowers limit supply (.unary '-' inner) tally (.literal (Numeral.negate text)) next
  | negate {inner : Expr} {tally next : Tally} {id : Id} :
      Lowers limit supply inner tally (.reference id) next →
      Lowers limit supply (.unary '-' inner) tally
        (next.ask limit supply .subtraction (.literal "0") (.reference id)).1
        (next.ask limit supply .subtraction (.literal "0") (.reference id)).2
  | step {op : Char} {kind : Arithmetic} {left right : Expr} {tally middle next : Tally}
      {first second : Operand} : Arithmetic.ofSymbol? op = some kind →
      ¬(op = '/' ∧ second = .literal "0") →
      Lowers limit supply left tally first middle →
      Lowers limit supply right middle second next →
      Lowers limit supply (.binary op left right) tally
        (next.ask limit supply kind first second).1 (next.ask limit supply kind first second).2

theorem lowers_of_plainValue {e : Expr} {tally next : Tally} {operand : Operand}
    (h : e.plainValue limit supply tally = .ok (operand, next)) :
    Lowers limit supply e tally operand next := by
  induction e generalizing tally next operand with
  | literal text =>
    unfold Expr.plainValue at h
    split at h
    next numeral => cases h; exact .literal numeral
    next => cases h
  | paren inner ih => exact .paren (ih h)
  | unary op inner ih =>
    obtain ⟨⟨operand, middle⟩, lowered, signed⟩ := exists_of_bind_eq_ok h
    dsimp only [Tally.sign] at signed
    split at signed
    next => cases signed
    next minus =>
      obtain rfl := not_not.1 minus
      split at signed
      next text => cases signed; exact .fold (ih lowered)
      next id =>
        have negated := Lowers.negate (ih lowered)
        rw [Except.ok.inj signed] at negated
        exact negated
  | binary op left right ihl ihr =>
    obtain ⟨⟨first, middle⟩, loweredLeft, rest⟩ := exists_of_bind_eq_ok h
    obtain ⟨⟨second, last⟩, loweredRight, combined⟩ := exists_of_bind_eq_ok rest
    dsimp only [Tally.combine] at combined
    split at combined
    next => cases combined
    next kind known =>
      split at combined
      next => cases combined
      next nonzero =>
        have stepped := Lowers.step known nonzero (ihl loweredLeft) (ihr loweredRight)
        rw [Except.ok.inj combined] at stepped
        exact stepped

/-- The rules find only what the recursion finds. -/
theorem Lowers.plainValue_eq {e : Expr} {tally next : Tally} {operand : Operand}
    (h : Lowers limit supply e tally operand next) :
    e.plainValue limit supply tally = .ok (operand, next) := by
  induction h with
  | literal numeral => rw [Expr.plainValue, if_pos numeral]
  | paren _ ih => exact ih
  | fold _ ih | negate _ ih => rw [Expr.plainValue, ih]; rfl
  | step known nonzero _ _ ihl ihr =>
    rw [Expr.plainValue, ihl]
    dsimp only [Except.bind]
    rw [ihr]
    simp only [Tally.combine, known, if_neg nonzero]

namespace Lowers

/-- A value that the recursion finds is a reference, or its text is a numeral. -/
theorem isWellSpelt {e : Expr} {tally next : Tally} {operand : Operand}
    (h : Lowers limit supply e tally operand next) : operand.isWellSpelt = true := by
  induction h with
  | literal numeral => exact numeral
  | paren _ ih => exact ih
  | fold _ ih => exact Numeral.isNumeral_negate ih
  | negate | step =>
    obtain ⟨id, eq⟩ := Tally.ask_fst limit supply _ _ _ _
    rw [eq]; rfl

/-- Nothing that was asked for is forgotten. -/
theorem asked_le {e : Expr} {tally next : Tally} {operand : Operand}
    (h : Lowers limit supply e tally operand next) : tally.asked ≤ next.asked := by
  induction h with
  | literal => exact Nat.le_refl _
  | paren _ ih => exact ih
  | fold _ ih => exact ih
  | negate _ ih => simpa using Nat.le_succ_of_le ih
  | step _ _ _ _ ihl ihr => simpa using Nat.le_succ_of_le (ihl.trans ihr)

end Lowers

namespace Lowering

@[simp] theorem run_nil (values : List Operand) (emitter : Emitter) :
    run limit supply ⟨[], values, emitter⟩ = .ok ⟨[], values, emitter⟩ := by
  rw [run]

theorem run_cons (task : Task) (tasks : List Task) (values : List Operand) (emitter : Emitter) :
    run limit supply ⟨task :: tasks, values, emitter⟩ =
      (perform limit supply task tasks values emitter).bind (run limit supply) := by
  rw [run]
  split
  next eq => cases eq
  next eq =>
    cases eq
    split
    next done => rw [done]; rfl
    next failed => rw [failed]; rfl

theorem resume_emitterOf (tasks : List Task) (values : List Operand)
    (outcome : Except LoweringFault (Operand × Tally)) :
    (resume tasks values (outcome.map Tally.emitterOf)).bind (run limit supply) =
      outcome.bind fun result =>
        run limit supply ⟨tasks, result.1 :: values, result.2.emitter⟩ := by
  cases outcome <;> rfl

/-- A walk that visits a tree finds the value that the recursion finds, puts it on the stack, and
goes on with the tasks after it; or it ends in the same fault. -/
theorem run_visit (e : Expr) (tasks : List Task) (values : List Operand) (tally : Tally) :
    run limit supply ⟨.visit e :: tasks, values, tally.emitter⟩ =
      (e.plainValue limit supply tally).bind fun result =>
        run limit supply ⟨tasks, result.1 :: values, result.2.emitter⟩ := by
  induction e generalizing tasks values tally with
  | literal text =>
    rw [run_cons]
    dsimp only [perform, Expr.plainValue]
    split <;> rfl
  | paren inner ih =>
    rw [run_cons]
    exact ih tasks values tally
  | unary op inner ih =>
    rw [run_cons]
    dsimp only [perform, Expr.plainValue, Except.bind]
    rw [ih]
    cases lowered : inner.plainValue limit supply tally with
    | error fault => rfl
    | ok result =>
      dsimp only [Except.bind]
      rw [run_cons]
      dsimp only [perform]
      rw [Tally.negate_emitter (lowers_of_plainValue lowered).isWellSpelt, resume_emitterOf]
      rfl
  | binary op left right ihl ihr =>
    rw [run_cons]
    dsimp only [perform, Expr.plainValue, Except.bind]
    rw [ihl]
    cases left.plainValue limit supply tally with
    | error fault => rfl
    | ok first =>
      dsimp only [Except.bind]
      rw [ihr]
      cases right.plainValue limit supply first.2 with
      | error fault => rfl
      | ok second =>
        dsimp only [Except.bind]
        rw [run_cons]
        dsimp only [perform]
        rw [Tally.apply_emitter, resume_emitterOf]
        rfl

/-- The whole walk of a tree. -/
theorem run_start (e : Expr) :
    run limit supply (.start e) =
      (e.plainValue limit supply .empty).map fun result =>
        ⟨[], [result.1], result.2.emitter⟩ := by
  refine (run_visit e [] [] .empty).trans ?_
  cases e.plainValue limit supply .empty with
  | error fault => rfl
  | ok result => exact run_nil _ _

/-- The limit is checked against all that was asked for. -/
theorem finish_emitter (operand : Operand) (tally : Tally) :
    finish limit ⟨[], [operand], tally.emitter⟩ =
      if tally.asked ≤ limit.maxOperations then .ok ⟨tally.kept, operand⟩
      else .error (.tooMany tally.asked limit.maxOperations) := by
  dsimp only [finish, Tally.emitter, Limit.check]
  by_cases within : tally.asked ≤ limit.maxOperations
  · rw [if_pos within, if_pos (Limit.allows_iff.2 within)]
  · rw [if_neg within, if_neg (mt Limit.allows_iff.1 within)]

end Lowering

namespace Expr

/-- A tree is taken apart by finding its value and then checking the limit. -/
theorem lower_eq_bind (e : Expr) :
    e.lower limit supply = (e.plainValue limit supply .empty).bind fun result =>
      Lowering.finish limit ⟨[], [result.1], result.2.emitter⟩ := by
  unfold lower
  rw [Lowering.run_start]
  cases e.plainValue limit supply .empty <;> rfl

/-- The walk does what the recursion does: it comes to the same decomposition or ends in the same
fault. Where it ends well it has found the value that the recursion finds, stored the operations
that the recursion keeps, counted those that the recursion asks for, and drawn one identifier for
each operation that it stored. -/
theorem lower_eq_plainLower (limit : Limit) (supply : Supply) (e : Expr) :
    e.lower limit supply = e.plainLower limit supply ∧
      Lowering.run limit supply (.start e) =
        (e.plainValue limit supply ⟨[], 0⟩).map fun (operand, tally) =>
          ⟨[], [operand], ⟨tally.kept.toArray, tally.asked, tally.kept.length⟩⟩ := by
  refine ⟨?_, Lowering.run_start e⟩
  rw [lower_eq_bind, plainLower]
  simp only [Lowering.finish_emitter]
  rfl

/-- A tree that is taken apart has a value within the limit, and its operations are those that were
kept. -/
theorem lowers_of_lower {e : Expr} {decomposition : Decomposition}
    (h : e.lower limit supply = .ok decomposition) :
    ∃ tally, Lowers limit supply e .empty decomposition.result tally ∧
      tally.asked ≤ limit.maxOperations ∧ decomposition.operations = tally.kept := by
  rw [lower_eq_bind] at h
  obtain ⟨⟨operand, tally⟩, found, finished⟩ := exists_of_bind_eq_ok h
  rw [Lowering.finish_emitter] at finished
  split at finished
  next within =>
    cases finished
    exact ⟨tally, lowers_of_plainValue found, within, rfl⟩
  next => cases finished

/-- A tree that is not taken apart has no value, or it asks for too many operations. -/
theorem plainValue_of_lower_error {e : Expr} {fault : LoweringFault}
    (h : e.lower limit supply = .error fault) :
    e.plainValue limit supply .empty = .error fault ∨
      ∃ count, fault = .tooMany count limit.maxOperations := by
  rw [lower_eq_bind] at h
  rcases fault_of_bind_eq_error h with found | ⟨⟨operand, tally⟩, -, finished⟩
  · exact .inl found
  rw [Lowering.finish_emitter] at finished
  split at finished
  next => cases finished
  next => cases finished; exact .inr ⟨tally.asked, rfl⟩

end Expr

end Stepwise
