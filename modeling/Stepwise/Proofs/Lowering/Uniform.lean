import Stepwise.Proofs.Lowering.Offence

/-!
# Taking a tree apart is uniform in the identifiers

Whether a tree that was read can be taken apart, and into which steps, does not depend on the
identifiers that are drawn: it is refused for the same fault whatever they are, or it comes to the
decomposition of the same tree of steps (`Expr.lower_uniform`). So identifiers are nothing but names
for places. A `Plan` is a decomposition that refers to operations by their places in the list, and a
text is refused for one error, or it has one plan that every supply of identifiers fills in
(`decompose_uniform`), also a supply that repeats itself.
-/

namespace Stepwise

theorem Arithmetic.symbol_injective {kind other : Arithmetic} (h : kind.symbol = other.symbol) :
    kind = other := by
  have same := ofSymbol?_symbol kind
  rw [h, ofSymbol?_symbol] at same
  exact (Option.some.inj same).symm

theorem StepTree.toExpr_injective {tree other : StepTree} (h : tree.toExpr = other.toExpr) :
    tree = other := by
  induction tree generalizing other with
  | literal text =>
    cases other with
    | literal => cases h; rfl
    | step => cases h
  | step kind left right ihl ihr =>
    cases other with
    | literal => cases h
    | step otherKind otherLeft otherRight =>
      obtain ⟨symbol, first, second⟩ := Expr.binary.inj h
      rw [Arithmetic.symbol_injective symbol, ihl first, ihr second]

/-- A tree that is well spelt is refused for one fault whatever the identifiers, or comes to one
tree of steps. -/
theorem Expr.lower_uniform (limit : Limit) {e : Expr} (spelt : e.isWellSpelt = true) :
    (∃ fault, ∀ supply, e.lower limit supply = .error fault) ∨
      ∃ tree : StepTree, e.normal = tree.toExpr ∧
        ∀ supply, e.lower limit supply = .ok (tree.decomposition supply) := by
  cases first : e.offences.head? with
  | some fault => exact .inl ⟨fault, fun _ => lower_of_offence spelt first⟩
  | none =>
    have nothing := List.head?_eq_none_iff.1 first
    by_cases within : e.cost ≤ limit.maxOperations
    · have tree (supply : Supply) : ∃ tree : StepTree, e.normal = tree.toExpr ∧
          e.lower limit supply = .ok (tree.decomposition supply) := by
        obtain ⟨decomposition, lowered, -⟩ := (lower_of_cost limit supply spelt nothing).1 within
        obtain ⟨tree, normal, rfl, -⟩ := stepTree_of_lower lowered
        exact ⟨tree, normal, lowered⟩
      -- The tree of steps is found with one supply and is the same for the others, since the
      -- normal form does not know of any supply.
      obtain ⟨one, normal, -⟩ := tree (.counting .nil)
      refine .inr ⟨one, normal, fun supply => ?_⟩
      obtain ⟨other, otherNormal, lowered⟩ := tree supply
      rw [lowered, StepTree.toExpr_injective (normal.symm.trans otherNormal)]
    · exact .inl ⟨_, fun supply => (lower_of_cost limit supply spelt nothing).2 (by omega)⟩

/-- What a step of a plan works on: a literal, or the result of the step at some place. -/
inductive Plan.Input where
  | literal (text : String)
  | place (index : Nat)
deriving DecidableEq, Repr

/-- One binary arithmetic step of a plan. -/
structure Plan.Step where
  kind : Arithmetic
  left : Plan.Input
  right : Plan.Input
deriving DecidableEq, Repr

/-- A decomposition that refers to its operations by their places in the list. -/
structure Plan where
  steps : List Plan.Step
  result : Plan.Input
deriving DecidableEq, Repr

namespace Plan

/-- The operand of an input, where each place is named by the identifier drawn for it. -/
def Input.operand (supply : Supply) : Input → Operand
  | literal text => .literal text
  | place index => .reference (supply index)

/-- The operation of the step at a place. -/
def Step.operation (supply : Supply) (index : Nat) (step : Step) : Operation :=
  .new (supply index) step.kind (step.left.operand supply) (step.right.operand supply)

/-- The decomposition in which each place is named by the identifier drawn for it. -/
def fill (supply : Supply) (plan : Plan) : Decomposition :=
  ⟨plan.steps.mapIdx (Step.operation supply), plan.result.operand supply⟩

/-- The input is a literal, or the result of a step that stands before `index`. -/
def Input.IsBefore (index : Nat) : Input → Prop
  | literal _ => True
  | place earlier => earlier < index

/-- Each of the steps, the first of which stands at `index`, works on what stands before it. -/
def PointsBack : (index : Nat) → List Step → Prop
  | _, [] => True
  | index, step :: rest =>
    step.left.IsBefore index ∧ step.right.IsBefore index ∧ PointsBack (index + 1) rest

/-- All inputs are literals or results of steps of the plan that stand before them. -/
structure IsWellFounded (plan : Plan) : Prop where
  steps : PointsBack 0 plan.steps
  result : plan.result.IsBefore plan.steps.length

theorem Input.IsBefore.mono {index later : Nat} {input : Input} (h : input.IsBefore index)
    (le : index ≤ later) : input.IsBefore later := by
  cases input with
  | literal text => trivial
  | place earlier => exact Nat.lt_of_lt_of_le h le

theorem pointsBack_append {index : Nat} {before after : List Step} :
    PointsBack index (before ++ after) ↔
      PointsBack index before ∧ PointsBack (index + before.length) after := by
  induction before generalizing index with
  | nil => simp [PointsBack]
  | cons step rest ih =>
    rw [List.cons_append, PointsBack, PointsBack, ih, List.length_cons, and_assoc, and_assoc,
      show index + 1 + rest.length = index + (rest.length + 1) by omega]

end Plan

namespace StepTree

/-- The input that stands for the tree, when its steps start at `place`. -/
def input (place : Nat) : StepTree → Plan.Input
  | literal text => .literal text
  | step _ left right => .place (place + left.size + right.size)

/-- The steps of the tree, the first of which stands at `place`. -/
def steps (place : Nat) : StepTree → List Plan.Step
  | literal _ => []
  | step kind left right =>
    left.steps place ++ right.steps (place + left.size) ++
      [⟨kind, left.input place, right.input (place + left.size)⟩]

/-- The plan of the tree. -/
def plan (tree : StepTree) : Plan := ⟨tree.steps 0, tree.input 0⟩

variable {supply : Supply}

@[simp] theorem length_steps (place : Nat) (tree : StepTree) :
    (tree.steps place).length = tree.size := by
  induction tree generalizing place with
  | literal text => rfl
  | step kind left right ihl ihr =>
    simp [steps, size, ihl, ihr, Nat.add_assoc]

theorem operand_input (place : Nat) (tree : StepTree) :
    (tree.input place).operand supply = tree.operand supply place := by
  cases tree <;> rfl

theorem mapIdx_steps (supply : Supply) (place : Nat) (tree : StepTree) :
    (tree.steps place).mapIdx (fun index => Plan.Step.operation supply (place + index)) =
      tree.operations supply place := by
  induction tree generalizing place with
  | literal text => rfl
  | step kind left right ihl ihr =>
    have second : (right.steps (place + left.size)).mapIdx
        (fun index => Plan.Step.operation supply (place + (index + left.size))) =
          right.operations supply (place + left.size) := by
      rw [← ihr]
      congr 1
      funext index
      rw [show place + (index + left.size) = place + left.size + index by omega]
    have root : place + (left.size + right.size) = place + left.size + right.size := by omega
    rw [steps, operations, List.mapIdx_append, List.mapIdx_append, ihl, length_steps, second,
      List.length_append, length_steps, length_steps]
    simp only [List.mapIdx_cons, List.mapIdx_nil, Nat.zero_add, root, Plan.Step.operation,
      operand_input]

theorem fill_plan (supply : Supply) (tree : StepTree) :
    tree.plan.fill supply = tree.decomposition supply := by
  have steps := tree.mapIdx_steps supply 0
  simp only [Nat.zero_add] at steps
  rw [Plan.fill, plan, decomposition, operand_input]
  exact congrArg (Decomposition.mk · _) steps

theorem isBefore_input (place : Nat) (tree : StepTree) :
    (tree.input place).IsBefore (place + tree.size) := by
  cases tree with
  | literal text => trivial
  | step kind left right =>
    show place + left.size + right.size < place + (left.size + right.size + 1)
    omega

theorem pointsBack_steps (place : Nat) (tree : StepTree) :
    Plan.PointsBack place (tree.steps place) := by
  induction tree generalizing place with
  | literal text => trivial
  | step kind left right ihl ihr =>
    have whole : place + (left.size + right.size) = place + left.size + right.size := by omega
    rw [steps, Plan.pointsBack_append, Plan.pointsBack_append, List.length_append, length_steps,
      length_steps, whole]
    -- What stands before the right part stands before the root as well.
    have first := (left.isBefore_input place).mono (Nat.le_add_right _ right.size)
    have second := right.isBefore_input (place + left.size)
    exact ⟨⟨ihl place, ihr (place + left.size)⟩, first, second, trivial⟩

theorem isWellFounded_plan (tree : StepTree) : tree.plan.IsWellFounded where
  steps := tree.pointsBack_steps 0
  result := by
    have before := tree.isBefore_input 0
    rwa [Nat.zero_add, ← tree.length_steps 0] at before

end StepTree

/-- A text is refused for one error whatever the identifiers, or it has one plan that the supply
fills in: the operation at a place carries the identifier that was drawn for the place, and so do
all references to it. -/
theorem decompose_uniform (limit : Limit) (text : String) :
    (∃ error, ∀ supply, decompose limit supply text = .error error) ∨
      ∃ plan : Plan, plan.IsWellFounded ∧
        ∀ supply, decompose limit supply text = .ok (plan.fill supply) := by
  cases read : Expr.read text with
  | error error => exact .inl ⟨error, fun _ => decompose_of_unread read⟩
  | ok e =>
    have spelt := (Expr.derives_of_read read).isWellSpelt
    rcases Expr.lower_uniform limit spelt with ⟨fault, failed⟩ | ⟨tree, -, lowered⟩
    · refine .inl ⟨fault.toError, fun supply => ?_⟩
      rw [decompose_of_read read, failed]
      rfl
    · refine .inr ⟨tree.plan, tree.isWellFounded_plan, fun supply => ?_⟩
      rw [decompose_of_read read, lowered, tree.fill_plan]
      rfl

end Stepwise
