import Stepwise.Proofs.Lowering.Progress
import Stepwise.Proofs.Lowering.StepTree

/-!
# The limit bounds what is stored and drawn

In every state of a walk the emitter stores as many operations as were asked for, but no more than
the limit allows, and has drawn one identifier for each of them (`Lowering.IsGuarded`). The limit
is looked at twice, by each emission and once after the walk: a walk that passes the second test
has asked for no operation beyond the limit, so nothing that it came to refers to the placeholder.
Main statement: whatever becomes of a tree, no more is stored or drawn than the limit allows
(`Expr.allocation_bounded`).
-/

namespace Stepwise

variable {limit : Limit} {supply : Supply}

/-- The operand is a literal, or refers to one of the first `count` identifiers. -/
def Operand.IsDrawn (supply : Supply) (count : Nat) (operand : Operand) : Prop :=
  ∀ id, operand = .reference id → id ∈ supply.draws 0 count

theorem Supply.draws_succ (supply : Supply) (count : Nat) :
    supply.draws 0 (count + 1) = supply.draws 0 count ++ [supply count] := by
  rw [draws_add, draws_one, Nat.zero_add]

theorem Operand.IsDrawn.succ {count : Nat} {operand : Operand}
    (drawn : operand.IsDrawn supply count) : operand.IsDrawn supply (count + 1) := by
  intro id refers
  rw [Supply.draws_succ]
  exact List.mem_append_left _ (drawn id refers)

theorem Operand.isDrawn_reference (supply : Supply) (count : Nat) :
    (reference (supply count)).IsDrawn supply (count + 1) := by
  rintro _ ⟨rfl⟩
  rw [Supply.draws_succ]
  exact List.mem_append_right _ List.mem_cons_self

/-- A drawn operand is not the placeholder, unless that was drawn. -/
theorem Operand.IsDrawn.ne_nil {count : Nat} {operand : Operand}
    (drawn : operand.IsDrawn supply count) (named : ∀ place < count, supply place ≠ .nil) :
    operand ≠ .reference .nil := by
  intro refers
  obtain ⟨place, mem, isNil⟩ := List.mem_map.1 (drawn _ refers)
  have below := (List.mem_range'_1.1 mem).2
  exact named place (by omega) isNil

namespace Emitter

variable {emitter : Emitter}

theorem emit_of_room (room : emitter.count < limit.maxOperations) (kind : Arithmetic)
    (left right : Operand) :
    emitter.emit limit supply kind left right =
      (.reference (supply emitter.drawn),
        ⟨emitter.operations.push (.new (supply emitter.drawn) kind left right),
          emitter.count + 1, emitter.drawn + 1⟩) :=
  if_pos (Limit.allows_iff.2 room)

theorem emit_of_full (full : limit.maxOperations ≤ emitter.count) (kind : Arithmetic)
    (left right : Operand) :
    emitter.emit limit supply kind left right =
      (.reference .nil, { emitter with count := emitter.count + 1 }) :=
  if_neg (by rw [Limit.allows_iff]; omega)

/-- The emitter stores what was asked for up to the limit, under the first identifiers of the
supply, and what it stores refers to those alone. -/
structure IsGuarded (limit : Limit) (supply : Supply) (emitter : Emitter) : Prop where
  stored : emitter.operations.size = min emitter.count limit.maxOperations
  drawn : emitter.drawn = emitter.operations.size
  ids : emitter.operations.toList.map Operation.id = supply.draws 0 emitter.drawn
  operands : ∀ operation ∈ emitter.operations.toList,
    operation.left.IsDrawn supply emitter.drawn ∧ operation.right.IsDrawn supply emitter.drawn

theorem isGuarded_empty : IsGuarded limit supply empty where
  stored := (Nat.zero_min _).symm
  drawn := rfl
  ids := rfl
  operands := nofun

/-- The operands at hand count as long as nothing was asked for beyond the limit. -/
def Holds (limit : Limit) (supply : Supply) (operand : Operand) (emitter : Emitter) : Prop :=
  emitter.count ≤ limit.maxOperations → operand.IsDrawn supply emitter.drawn

theorem holds_literal (text : String) : Holds limit supply (.literal text) emitter :=
  fun _ => nofun

theorem Holds.emit {operand : Operand} (holds : Holds limit supply operand emitter)
    (kind : Arithmetic) (left right : Operand) :
    Holds limit supply operand (emitter.emit limit supply kind left right).2 := by
  intro within
  by_cases room : emitter.count < limit.maxOperations
  · rw [emit_of_room room]
    exact (holds (by omega)).succ
  · rw [emit_of_full (by omega)] at within ⊢
    exact holds (by dsimp only at within; omega)

theorem holds_emit (kind : Arithmetic) (left right : Operand) :
    Holds limit supply (emitter.emit limit supply kind left right).1
      (emitter.emit limit supply kind left right).2 := by
  intro within
  by_cases room : emitter.count < limit.maxOperations
  · rw [emit_of_room room]
    exact Operand.isDrawn_reference supply emitter.drawn
  · rw [emit_of_full (by omega)] at within
    dsimp only at within
    omega

theorem count_emit (kind : Arithmetic) (left right : Operand) :
    (emitter.emit limit supply kind left right).2.count = emitter.count + 1 := by
  unfold emit
  dsimp only
  split <;> rfl

theorem exists_emit (kind : Arithmetic) (left right : Operand) :
    ∃ id, (emitter.emit limit supply kind left right).1 = .reference id := by
  unfold emit
  dsimp only
  split <;> exact ⟨_, rfl⟩

/-- Asking for one more operation, whether or not there is room for it. -/
theorem IsGuarded.emit (guarded : emitter.IsGuarded limit supply) (kind : Arithmetic)
    {left right : Operand} (first : Holds limit supply left emitter)
    (second : Holds limit supply right emitter) :
    (emitter.emit limit supply kind left right).2.IsGuarded limit supply := by
  obtain ⟨stored, drawn, ids, operands⟩ := guarded
  by_cases room : emitter.count < limit.maxOperations
  · rw [emit_of_room room]
    constructor
    case stored =>
      rw [Array.size_push, stored]
      dsimp only
      omega
    case drawn => rw [Array.size_push, drawn]
    case ids =>
      rw [Array.toList_push, List.map_append, ids, Supply.draws_succ]
      rfl
    case operands =>
      intro operation mem
      rw [Array.toList_push, List.mem_append, List.mem_singleton] at mem
      rcases mem with before | rfl
      · exact ⟨(operands operation before).1.succ, (operands operation before).2.succ⟩
      · exact ⟨(first (by omega)).succ, (second (by omega)).succ⟩
  · rw [emit_of_full (by omega)]
    refine ⟨?_, drawn, ids, operands⟩
    dsimp only
    omega

/-- Only the identifiers within the limit are looked at. -/
theorem IsGuarded.emit_congr {other : Supply} (guarded : emitter.IsGuarded limit supply)
    (same : ∀ place < limit.maxOperations, other place = supply place) (kind : Arithmetic)
    (left right : Operand) :
    emitter.emit limit other kind left right = emitter.emit limit supply kind left right := by
  by_cases room : emitter.count < limit.maxOperations
  · have within : emitter.drawn < limit.maxOperations := by
      rw [guarded.drawn, guarded.stored]
      omega
    rw [emit_of_room room, emit_of_room room, same _ within]
  · rw [emit_of_full (by omega), emit_of_full (by omega)]

end Emitter

namespace Lowering

/-- A walk that went on from the states `passed` has asked for an operation in those that ask for
one. Its emitter is guarded, its literals are numerals, and its references are drawn as long as
nothing was asked for beyond the limit. -/
structure IsGuarded (limit : Limit) (supply : Supply) (passed : List Lowering)
    (walk : Lowering) : Prop where
  count : walk.emitter.count = passed.countP asks
  emitter : walk.emitter.IsGuarded limit supply
  spelt : ∀ value ∈ walk.values, value.isWellSpelt = true
  values : ∀ value ∈ walk.values, Emitter.Holds limit supply value walk.emitter

namespace IsGuarded

variable {passed : List Lowering} {walk : Lowering} {tasks : List Task} {values : List Operand}

/-- A task that does not ask puts no reference on the stack that was not there. -/
theorem keep (guarded : IsGuarded limit supply passed walk) (quiet : walk.asks = false)
    (known : ∀ value ∈ values, value ∈ walk.values ∨
      ∃ text, value = .literal text ∧ Numeral.isNumeral text = true) :
    IsGuarded limit supply (passed ++ [walk]) ⟨tasks, values, walk.emitter⟩ where
  count := by simp [List.countP_append, quiet, guarded.count]
  emitter := guarded.emitter
  spelt value mem := by
    rcases known value mem with before | ⟨text, rfl, numeral⟩
    · exact guarded.spelt value before
    · exact numeral
  values value mem := by
    rcases known value mem with before | ⟨text, rfl, -⟩
    · exact guarded.values value before
    · exact Emitter.holds_literal text

/-- A task that asks gets a reference, to a drawn identifier or to the placeholder. -/
theorem emit (guarded : IsGuarded limit supply passed walk) (asked : walk.asks = true)
    (kind : Arithmetic) {left right : Operand}
    (first : Emitter.Holds limit supply left walk.emitter)
    (second : Emitter.Holds limit supply right walk.emitter)
    (known : ∀ value ∈ values, value ∈ walk.values) :
    IsGuarded limit supply (passed ++ [walk])
      ⟨tasks, (walk.emitter.emit limit supply kind left right).1 :: values,
        (walk.emitter.emit limit supply kind left right).2⟩ where
  count := by simp [List.countP_append, asked, Emitter.count_emit, guarded.count]
  emitter := guarded.emitter.emit kind first second
  spelt := by
    refine List.forall_mem_cons.2 ⟨?_, fun value mem => guarded.spelt value (known value mem)⟩
    obtain ⟨id, eq⟩ : ∃ id, (walk.emitter.emit limit supply kind left right).1 = .reference id :=
      Emitter.exists_emit kind left right
    rw [eq]
    rfl
  values := by
    refine List.forall_mem_cons.2 ⟨Emitter.holds_emit kind left right, fun value mem => ?_⟩
    exact (guarded.values value (known value mem)).emit kind left right

end IsGuarded

/-- One task keeps the walk guarded. -/
theorem Does.isGuarded {passed : List Lowering} {task : Task} {tasks : List Task}
    {values : List Operand} {emitter : Emitter} {next : Lowering}
    (does : Does limit supply tasks task values emitter next)
    (guarded : IsGuarded limit supply passed ⟨task :: tasks, values, emitter⟩) :
    IsGuarded limit supply (passed ++ [⟨task :: tasks, values, emitter⟩]) next := by
  cases does with
  | @literal text _ _ numeral =>
    refine guarded.keep rfl (List.forall_mem_cons.2 ⟨?_, fun _ => .inl⟩)
    exact .inr ⟨text, rfl, numeral⟩
  | paren => exact guarded.keep rfl fun _ => .inl
  | unary => exact guarded.keep rfl fun _ => .inl
  | binary => exact guarded.keep rfl fun _ => .inl
  | @fold text _ _ numeral =>
    refine guarded.keep rfl (List.forall_mem_cons.2 ⟨?_, fun _ mem => ?_⟩)
    · exact .inr ⟨_, rfl, Numeral.isNumeral_negate numeral⟩
    · exact .inl (List.mem_cons_of_mem _ mem)
  | @subtract operand _ _ other =>
    have spelt : operand.isWellSpelt = true := guarded.spelt operand List.mem_cons_self
    have here := guarded.values operand List.mem_cons_self
    cases operand with
    | literal text =>
      -- a numeral would have been folded
      have folds : (some text).filter Numeral.isNumeral = some text :=
        Option.filter_eq_some_iff.2 ⟨rfl, spelt⟩
      rw [Operand.literal?, folds] at other
      cases other
    | reference id =>
      exact guarded.emit rfl .subtraction (Emitter.holds_literal "0") here
        fun _ => List.mem_cons_of_mem _
  | @apply op kind left right values _ _ =>
    have first := guarded.values left (List.mem_cons_of_mem _ List.mem_cons_self)
    have second := guarded.values right List.mem_cons_self
    exact guarded.emit rfl kind first second
      fun _ mem => List.mem_cons_of_mem _ (List.mem_cons_of_mem _ mem)

/-- Every state of the walk of a tree is guarded. -/
theorem isGuarded_of_passes {e : Expr} {passed : List Lowering} {walk : Lowering}
    (h : Passes limit supply (.start e) passed walk) : IsGuarded limit supply passed walk :=
  h.keeps ⟨rfl, Emitter.isGuarded_empty, nofun, nofun⟩ fun _ _ _ _ _ _ guarded does =>
    does.isGuarded guarded

/-! ### Identifiers beyond the limit -/

theorem perform_congr {other : Supply} {emitter : Emitter}
    (guarded : emitter.IsGuarded limit supply)
    (same : ∀ place < limit.maxOperations, other place = supply place) (task : Task)
    (tasks : List Task) (values : List Operand) :
    perform limit other task tasks values emitter =
      perform limit supply task tasks values emitter := by
  simp only [perform, Emitter.negate, Emitter.apply, guarded.emit_congr same]

theorem Passes.congr {other : Supply} {e : Expr} {passed : List Lowering} {walk : Lowering}
    (h : Passes limit supply (.start e) passed walk)
    (same : ∀ place < limit.maxOperations, other place = supply place) :
    Passes limit other (.start e) passed walk := by
  induction h with
  | start => exact .start
  | step before done ih =>
    refine ih.step ?_
    rwa [perform_congr (isGuarded_of_passes before).emitter same]

theorem Ends.congr {other : Supply} {walk : Lowering}
    {outcome : Except LoweringFault Decomposition} (h : Ends limit supply walk outcome)
    (guarded : walk.emitter.IsGuarded limit supply)
    (same : ∀ place < limit.maxOperations, other place = supply place) :
    Ends limit other walk outcome := by
  cases h with
  | done => exact .done
  | failed fault => exact .failed (by rwa [perform_congr guarded same])

/-- A walk that ends in a decomposition stored its operations and did not exceed the limit. -/
theorem Ends.of_ok {walk : Lowering} {decomposition : Decomposition}
    (h : Ends limit supply walk (.ok decomposition)) :
    decomposition.operations = walk.emitter.operations.toList ∧
      decomposition.result ∈ walk.values ∧ walk.emitter.count ≤ limit.maxOperations := by
  generalize outcome : Except.ok decomposition = ended at h
  cases h with
  | @done values emitter =>
    cases values with
    | nil => cases outcome
    | cons result values =>
      simp only [finish, Limit.check] at outcome
      split at outcome
      next within =>
        split at within
        next allowed =>
          cases outcome
          exact ⟨rfl, List.mem_cons_self, Limit.allows_iff.1 allowed⟩
        next => cases within
      next => cases outcome
  | failed => cases outcome

end Lowering

/-- What holds in a state of a walk. The walk has gone on from the states `passed`. -/
structure Lowering.IsBounded (limit : Limit) (supply : Supply) (passed : List Lowering)
    (walk : Lowering) : Prop where
  /-- Every operation that was asked for is counted. -/
  count : walk.emitter.count = passed.countP asks
  /-- As many are stored as were asked for, but no more than the limit allows. -/
  stored : walk.emitter.operations.size = min walk.emitter.count limit.maxOperations
  /-- One identifier was drawn for each operation that is stored. -/
  drawn : walk.emitter.drawn = walk.emitter.operations.size
  /-- The operations have these identifiers, in their order. -/
  ids : walk.emitter.operations.toList.map Operation.id = supply.draws 0 walk.emitter.drawn

/-- What holds of the state `last` in which the walk of the tree ends, in whatever it ends. -/
structure Expr.EndsWithin (limit : Limit) (supply : Supply) (e : Expr) (passed : List Lowering)
    (last : Lowering) : Prop where
  passes : Lowering.Passes limit supply (.start e) passed last
  ends : Lowering.Ends limit supply last (e.lower limit supply)
  stored : last.emitter.operations.size ≤ limit.maxOperations
  drawn : last.emitter.drawn ≤ limit.maxOperations
  /-- What is stored is the list that the tree comes to, if it comes to one. -/
  operations : ∀ decomposition, e.lower limit supply = .ok decomposition →
    decomposition.operations = last.emitter.operations.toList
  /-- Nothing was asked for beyond that list. -/
  count : ∀ decomposition, e.lower limit supply = .ok decomposition →
    last.emitter.count = decomposition.operations.length

/-- What holds of the walk of the tree as a whole. -/
structure Expr.AllocatesWithin (limit : Limit) (supply : Supply) (e : Expr) : Prop where
  /-- The limit is kept at every moment, also of a walk that fails. -/
  bounded : ∀ passed walk, Lowering.Passes limit supply (.start e) passed walk →
    walk.IsBounded limit supply passed
  /-- The walk ends, and has kept the limit. -/
  ends : ∃ passed last, e.EndsWithin limit supply passed last
  /-- Identifiers beyond the limit make no difference. -/
  congr : ∀ other : Supply, (∀ place < limit.maxOperations, other place = supply place) →
    e.lower limit other = e.lower limit supply
  /-- No operation refers to the placeholder, unless that was drawn. -/
  operands : ∀ decomposition, e.lower limit supply = .ok decomposition →
    (∀ place < decomposition.operations.length, supply place ≠ .nil) →
      ∀ operation ∈ decomposition.operations,
        operation.left ≠ .reference .nil ∧ operation.right ≠ .reference .nil
  /-- The result does not refer to the placeholder, unless that was drawn. -/
  result : ∀ decomposition, e.lower limit supply = .ok decomposition →
    (∀ place < decomposition.operations.length, supply place ≠ .nil) →
      decomposition.result ≠ .reference .nil

theorem Lowering.isBounded_of_passes {e : Expr} {passed : List Lowering} {walk : Lowering}
    (passes : Passes limit supply (.start e) passed walk) :
    walk.IsBounded limit supply passed := by
  obtain ⟨count, ⟨stored, drawn, ids, -⟩, -, -⟩ := isGuarded_of_passes passes
  exact ⟨count, stored, drawn, ids⟩

theorem Expr.exists_endsWithin (limit : Limit) (supply : Supply) (e : Expr) :
    ∃ passed last, e.EndsWithin limit supply passed last := by
  obtain ⟨passed, last, passes, ends⟩ := Lowering.exists_ends limit supply e
  have bounded := Lowering.isBounded_of_passes passes
  have stored := bounded.stored
  have drawn := bounded.drawn
  refine ⟨passed, last, passes, ends, by omega, by omega, fun decomposition lowered => ?_,
    fun decomposition lowered => ?_⟩
  · rw [lowered] at ends
    exact ends.of_ok.1
  · rw [lowered] at ends
    obtain ⟨operations, -, within⟩ := ends.of_ok
    rw [operations, Array.length_toList, stored]
    omega

/-- At every moment of a walk as many operations are stored as were asked for, but no more than the
limit allows, and one identifier was drawn for each of them. So a call stores and draws no more
than that, in whatever it ends, and identifiers beyond the limit make no difference. A call that
succeeds has asked for the operations of its list alone, and nothing in it refers to the
placeholder for operations beyond the limit. -/
theorem Expr.allocation_bounded (limit : Limit) (supply : Supply) (e : Expr) :
    e.AllocatesWithin limit supply := by
  obtain ⟨passed, last, within⟩ := e.exists_endsWithin limit supply
  obtain ⟨-, guarded, -, values⟩ := Lowering.isGuarded_of_passes within.passes
  have named {decomposition : Decomposition} (lowered : e.lower limit supply = .ok decomposition)
      (genuine : ∀ place < decomposition.operations.length, supply place ≠ .nil) :
      ∀ place < last.emitter.drawn, supply place ≠ .nil := by
    rw [within.operations _ lowered, Array.length_toList, ← guarded.drawn] at genuine
    exact genuine
  constructor
  case bounded => exact fun _ _ => Lowering.isBounded_of_passes
  case ends => exact ⟨passed, last, within⟩
  case congr =>
    intro other same
    exact Lowering.lower_of_ends (within.passes.congr same) (within.ends.congr guarded same)
  case operands =>
    intro decomposition lowered genuine operation mem
    rw [within.operations _ lowered] at mem
    obtain ⟨left, right⟩ := guarded.operands operation mem
    exact ⟨left.ne_nil (named lowered genuine), right.ne_nil (named lowered genuine)⟩
  case result =>
    intro decomposition lowered genuine
    have ends := within.ends
    rw [lowered] at ends
    obtain ⟨-, result, allowed⟩ := ends.of_ok
    exact (values _ result allowed).ne_nil (named lowered genuine)

/-- A sum that needs two operations, under limits of one and of two. -/
theorem Expr.allocation_bounded_sum :
    let e : Expr := .binary '+' (.binary '+' (.literal "1") (.literal "2")) (.literal "3")
    (∃ passed walk, Lowering.Passes ⟨1⟩ (.counting ⟨10⟩) (.start e) passed walk ∧
      walk.emitter.count = 2 ∧ walk.emitter.operations.size = 1 ∧ walk.emitter.drawn = 1) ∧
    (∀ other : Supply, other 0 = ⟨10⟩ →
      e.lower ⟨1⟩ other = .error (.tooMany 2 1)) ∧
    ∃ decomposition, e.lower ⟨2⟩ (.counting ⟨10⟩) = .ok decomposition ∧
      (∀ place < decomposition.operations.length, Supply.counting ⟨10⟩ place ≠ .nil) ∧
      decomposition.result ≠ .reference .nil := by
  intro e
  have ran : Lowering.run ⟨1⟩ (.counting ⟨10⟩) (.start e) =
      .ok ⟨[], [.reference .nil],
        ⟨#[.new ⟨10⟩ .addition (.literal "1") (.literal "2")], 2, 1⟩⟩ := by
    decide +kernel
  have refused : e.lower ⟨1⟩ (.counting ⟨10⟩) = .error (.tooMany 2 1) := by decide +kernel
  have lowered : e.lower ⟨2⟩ (.counting ⟨10⟩) =
      .ok ⟨[.new ⟨10⟩ .addition (.literal "1") (.literal "2"),
        .new ⟨11⟩ .addition (.reference ⟨10⟩) (.literal "3")], .reference ⟨11⟩⟩ := by
    decide +kernel
  have named : ∀ place < 2, Supply.counting ⟨10⟩ place ≠ .nil := by decide
  have one := e.allocation_bounded ⟨1⟩ (.counting ⟨10⟩)
  have two := e.allocation_bounded ⟨2⟩ (.counting ⟨10⟩)
  obtain ⟨passed, passes, -⟩ := Lowering.run_eq_ok_iff.1 ran
  have bounded := one.bounded passed _ passes
  refine ⟨⟨passed, _, passes, rfl, bounded.stored, bounded.drawn⟩, fun other first => ?_, _,
    lowered, named, two.result _ lowered named⟩
  have agree : ∀ place < 1, other place = Supply.counting ⟨10⟩ place := by
    intro place below
    obtain rfl : place = 0 := by omega
    rw [first]
    decide
  exact (one.congr other agree).trans refused

end Stepwise
