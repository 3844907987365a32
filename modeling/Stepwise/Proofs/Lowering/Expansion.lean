import Mathlib.Data.List.Forall2
import Mathlib.Data.List.Nodup
import Stepwise.Proofs.Lowering.StepTree

/-!
# Putting the tree together again

An operand expands to a tree when each reference in it is replaced by the operation that it names.
Taking a tree apart loses nothing but parentheses and signs: the result expands to the normal form
of the tree, and to no other tree, and the operations expand one by one to the binary nodes of the
normal form, in postorder (`expands_lower`). The expansion exists whatever the identifiers are, and
it is unique where none of them is used twice.
-/

namespace Stepwise

/-- The tree of an operand, where references lead to operations of the list. -/
inductive Operand.Expands (operations : List Operation) : Operand → Expr → Prop where
  | literal (text : String) : Expands operations (.literal text) (.literal text)
  | reference {operation : Operation} {left right : Expr} : operation ∈ operations →
      Expands operations operation.left left → Expands operations operation.right right →
      Expands operations (.reference operation.id) (.binary operation.kind.symbol left right)

/-- The tree of an operation. -/
def Operation.Expands (operations : List Operation) (operation : Operation) (tree : Expr) : Prop :=
  (Operand.reference operation.id).Expands operations tree

namespace Operand

/-- Where no identifier is used twice, an operand has one tree at most. -/
theorem Expands.unique {operations : List Operation}
    (distinct : (operations.map Operation.id).Nodup) {operand : Operand} {tree other : Expr}
    (first : operand.Expands operations tree) (second : operand.Expands operations other) :
    tree = other := by
  induction first generalizing other with
  | literal text => cases second; rfl
  | @reference operation left right mem _ _ ihl ihr =>
    generalize eq : Operand.reference operation.id = operand at second
    cases second with
    | literal => cases eq
    | @reference operation' left' right' mem' expandsLeft expandsRight =>
      obtain rfl := List.inj_on_of_nodup_map distinct mem mem' (reference.inj eq)
      rw [ihl expandsLeft, ihr expandsRight]

theorem tree?_cons {operation : Operation} {before : List Operation} {left right : Expr}
    (first : operation.left.tree? before = some left)
    (second : operation.right.tree? before = some right) :
    (reference operation.id).tree? (operation :: before) =
      some (.binary operation.kind.symbol left right) := by
  rw [tree?, if_pos rfl, first, second]

/-- Later operations make no difference where none of them is referred to. -/
theorem tree?_append {operand : Operand} {later : List Operation} (before : List Operation)
    (skipped : ∀ id, operand = .reference id → id ∉ later.map Operation.id) :
    operand.tree? (later ++ before) = operand.tree? before := by
  cases operand with
  | literal text => simp only [tree?]
  | reference id =>
    have absent := skipped id rfl
    clear skipped
    induction later with
    | nil => rfl
    | cons operation rest ih =>
      rw [List.map_cons, List.mem_cons, not_or] at absent
      rw [List.cons_append, tree?, if_neg (Ne.symm absent.1)]
      exact ih absent.2

end Operand

namespace StepTree

variable {supply : Supply}

theorem expands_operand (tree : StepTree) (place : Nat) {operations : List Operation}
    (within : ∀ operation ∈ tree.operations supply place, operation ∈ operations) :
    (tree.operand supply place).Expands operations tree.toExpr := by
  induction tree generalizing place with
  | literal text => exact .literal text
  | step kind left right ihl ihr =>
    have expandsLeft := ihl place fun operation mem =>
      within operation (List.mem_append_left _ (List.mem_append_left _ mem))
    have expandsRight := ihr (place + left.size) fun operation mem =>
      within operation (List.mem_append_left _ (List.mem_append_right _ mem))
    exact .reference (within _ (List.mem_append_right _ List.mem_cons_self)) expandsLeft
      expandsRight

/-- The operations expand to the binary nodes of the tree, one by one. -/
theorem forall₂_binaries (tree : StepTree) (place : Nat) {operations : List Operation}
    (within : ∀ operation ∈ tree.operations supply place, operation ∈ operations) :
    List.Forall₂ (Operation.Expands operations) (tree.operations supply place)
      tree.toExpr.binaries := by
  induction tree generalizing place with
  | literal text => exact .nil
  | step kind left right ihl ihr =>
    have root := expands_operand (step kind left right) place within
    have nodesLeft := ihl place fun operation mem =>
      within operation (List.mem_append_left _ (List.mem_append_left _ mem))
    have nodesRight := ihr (place + left.size) fun operation mem =>
      within operation (List.mem_append_left _ (List.mem_append_right _ mem))
    exact List.rel_append (List.rel_append nodesLeft nodesRight) (.cons root .nil)

/-- Going through the operations from the latest back finds the tree. -/
theorem tree?_operand (tree : StepTree) (place : Nat) (before : List Operation)
    (distinct : (supply.draws place tree.size).Nodup) :
    (tree.operand supply place).tree? ((tree.operations supply place).reverse ++ before) =
      some tree.toExpr := by
  induction tree generalizing place before with
  | literal text => simp only [operand, Operand.tree?, toExpr]
  | step kind left right ihl ihr =>
    have apart := areApart distinct
    -- the operations of the right part stand before those of the left one, and are skipped
    have skipped : ∀ id, left.operand supply place = .reference id →
        id ∉ (right.operations supply (place + left.size)).reverse.map Operation.id := by
      intro id refers
      rw [List.map_reverse, List.mem_reverse, map_id_operations]
      exact apart.parts id (mem_draws_of_operand refers)
    have foundLeft := ihl place before apart.first
    rw [← Operand.tree?_append _ skipped] at foundLeft
    have foundRight := ihr (place + left.size)
      ((left.operations supply place).reverse ++ before) apart.second
    rw [operations, List.reverse_append, List.reverse_append, List.reverse_singleton,
      List.append_assoc, List.append_assoc, List.singleton_append]
    exact Operand.tree?_cons foundLeft foundRight

/-- The result of a decomposition expands to the tree of steps, and to no other tree. -/
theorem expands_result_iff (tree : StepTree) (distinct : supply.IsDistinct tree.size)
    {expansion : Expr} :
    (tree.decomposition supply).result.Expands (tree.decomposition supply).operations expansion ↔
      expansion = tree.toExpr := by
  have once : ((tree.decomposition supply).operations.map Operation.id).Nodup := by
    rw [tree.map_id_decomposition]
    exact distinct
  have whole : (tree.decomposition supply).result.Expands (tree.decomposition supply).operations
      tree.toExpr := tree.expands_operand 0 fun _ mem => mem
  constructor
  · intro expands
    exact Operand.Expands.unique once expands whole
  · rintro rfl
    exact whole

end StepTree

/-- Taking a tree apart loses nothing: the result expands to the normal form alone, and the
operations expand one by one to the binary nodes of the normal form, in postorder. -/
theorem expands_lower {limit : Limit} {supply : Supply} {e : Expr} {decomposition : Decomposition}
    (h : e.lower limit supply = .ok decomposition)
    (distinct : supply.IsDistinct decomposition.operations.length) :
    (∀ tree, decomposition.result.Expands decomposition.operations tree ↔ tree = e.normal) ∧
    decomposition.tree? = some e.normal ∧
    List.Forall₂
      (fun operation node => ∀ tree,
        operation.Expands decomposition.operations tree ↔ tree = node)
      decomposition.operations e.normal.binaries := by
  obtain ⟨tree, normal, rfl, -⟩ := Expr.stepTree_of_lower h
  rw [tree.length_decomposition] at distinct
  have once : ((tree.decomposition supply).operations.map Operation.id).Nodup := by
    rw [tree.map_id_decomposition]
    exact distinct
  have whole : (tree.decomposition supply).result.Expands (tree.decomposition supply).operations
      tree.toExpr := tree.expands_operand 0 fun _ mem => mem
  have nodes : List.Forall₂ (Operation.Expands (tree.decomposition supply).operations)
      (tree.decomposition supply).operations tree.toExpr.binaries :=
    tree.forall₂_binaries 0 fun _ mem => mem
  rw [normal]
  refine ⟨?_, ?_, ?_⟩
  · intro other
    exact ⟨fun expands => expands.unique once whole, fun eq => eq ▸ whole⟩
  · have found := tree.tree?_operand 0 [] distinct
    rwa [List.append_nil] at found
  · refine nodes.imp fun operation node expands other => ?_
    exact ⟨fun expands' => expands'.unique once expands, fun eq => eq ▸ expands⟩

/-- A sign that is folded, under a sign that costs an operation. -/
theorem expands_lower_signs :
    ∃ decomposition, (Expr.unary '-' (.paren (.binary '*' (.unary '-' (.literal "2"))
        (.literal "3")))).lower .standard (.counting .nil) = .ok decomposition ∧
      (Supply.counting .nil).IsDistinct decomposition.operations.length ∧
      (∀ tree, decomposition.result.Expands decomposition.operations tree ↔
        tree = .binary '-' (.literal "0") (.binary '*' (.literal "-2") (.literal "3"))) ∧
      decomposition.tree? =
        some (.binary '-' (.literal "0") (.binary '*' (.literal "-2") (.literal "3"))) ∧
      List.Forall₂
        (fun operation node => ∀ tree,
          operation.Expands decomposition.operations tree ↔ tree = node)
        decomposition.operations
        [.binary '*' (.literal "-2") (.literal "3"),
          .binary '-' (.literal "0") (.binary '*' (.literal "-2") (.literal "3"))] := by
  have lowered : (Expr.unary '-' (.paren (.binary '*' (.unary '-' (.literal "2"))
      (.literal "3")))).lower .standard (.counting .nil) =
      .ok ⟨[.new ⟨0⟩ .multiplication (.literal "-2") (.literal "3"),
        .new ⟨1⟩ .subtraction (.literal "0") (.reference ⟨0⟩)], .reference ⟨1⟩⟩ := by
    decide +kernel
  have distinct : (Supply.counting .nil).IsDistinct 2 := by decide +kernel
  exact ⟨_, lowered, distinct, expands_lower lowered distinct⟩

end Stepwise
