import Mathlib.Data.List.Nodup
import Stepwise.Proofs.Decomposer
import Stepwise.Proofs.OperationOrder

/-!
# A decomposition is a single tree

The operations of a decomposition refer only backwards, and every operation but the last is
referred to exactly once, so its references form one tree with the last operation as its root
(`isSingleTree_of_decompose`). The count behind it: within the operations of a tree of steps, the
references that were used and the one that still waits to be used are the identifiers that were
drawn, each as often as it was drawn.
-/

namespace Stepwise

/-- All references of a list of operations, one for each operand that is a reference. -/
def Operation.allReferences (operations : List Operation) : List Id :=
  operations.flatMap Operation.references

/-- The operations form one tree of references: children stand before their parents, the last
operation is the root and holds the result, and every other operation has one parent. -/
structure Decomposition.IsSingleTree (decomposition : Decomposition) : Prop where
  ordered : checkOrder decomposition.operations = .ok ()
  backward : ∀ before operation after, decomposition.operations = before ++ operation :: after →
    ∀ id ∈ operation.references, id ∈ before.map Operation.id
  constant : (∃ text, decomposition.result = .literal text) ↔ decomposition.operations = []
  result : ∀ operation ∈ decomposition.operations.getLast?,
    decomposition.result = .reference operation.id
  inner : ∀ operation ∈ decomposition.operations.dropLast,
    (Operation.allReferences decomposition.operations).count operation.id = 1
  root : ∀ operation ∈ decomposition.operations.getLast?,
    (Operation.allReferences decomposition.operations).count operation.id = 0
  fresh : ∀ operation ∈ decomposition.operations,
    operation.status = .pending ∧ operation.calculation = none

theorem Operand.mem_reference? {operand : Operand} {id : Id} :
    id ∈ operand.reference?.toList ↔ operand = .reference id := by
  cases operand <;> simp [reference?, eq_comm]

namespace Operation

@[simp] theorem references_new (id : Id) (kind : Arithmetic) (left right : Operand) :
    (new id kind left right).references =
      left.reference?.toList ++ right.reference?.toList := by
  cases left <;> cases right <;> rfl

@[simp] theorem allReferences_append (before after : List Operation) :
    allReferences (before ++ after) = allReferences before ++ allReferences after :=
  List.flatMap_append

@[simp] theorem allReferences_singleton (operation : Operation) :
    allReferences [operation] = operation.references :=
  List.flatMap_singleton _ _

end Operation

namespace StepTree

open OperationOrder (IsReady isReady_append)

variable {supply : Supply}

theorem isReady_operations (tree : StepTree) (place : Nat) (earlier : List Id)
    (distinct : (supply.draws place tree.size).Nodup)
    (unused : ∀ id ∈ supply.draws place tree.size, id ∉ earlier) :
    IsReady earlier (tree.operations supply place) := by
  induction tree generalizing place earlier with
  | literal text => trivial
  | step kind left right ihl ihr =>
    have apart := areApart distinct
    rw [draws_step] at unused
    simp only [operations, isReady_append, map_id_operations, List.map_append, List.reverse_append]
    refine ⟨⟨?_, ?_⟩, ?_, ?_, trivial⟩
    · exact ihl place earlier apart.first fun id mem =>
        unused id (List.mem_append_left _ (List.mem_append_left _ mem))
    · refine ihr (place + left.size) _ apart.second fun id mem => ?_
      rw [List.mem_append, List.mem_reverse, not_or]
      exact ⟨fun memLeft => apart.parts id memLeft mem,
        unused id (List.mem_append_left _ (List.mem_append_right _ mem))⟩
    · intro id refers
      rw [Operation.references_new, List.mem_append, Operand.mem_reference?,
        Operand.mem_reference?] at refers
      simp only [List.mem_append, List.mem_reverse]
      rcases refers with eq | eq
      · exact .inl (.inr (mem_draws_of_operand eq))
      · exact .inl (.inl (mem_draws_of_operand eq))
    · simp only [List.mem_append, List.mem_reverse, not_or]
      exact ⟨⟨apart.rootRight, apart.rootLeft⟩,
        unused _ (List.mem_append_right _ List.mem_cons_self)⟩

/-- Among the operations of a tree, the references that are used, together with the one that waits
for use, are the identifiers that were drawn. -/
theorem count_allReferences (tree : StepTree) (place : Nat) (id : Id) :
    (Operation.allReferences (tree.operations supply place)).count id +
        (tree.operand supply place).reference?.toList.count id =
      (supply.draws place tree.size).count id := by
  induction tree generalizing place with
  | literal text => rfl
  | step kind left right ihl ihr =>
    have first := ihl place
    have second := ihr (place + left.size)
    have root : (operand supply place (step kind left right)).reference? =
        some (supply (place + left.size + right.size)) := rfl
    rw [operations, draws_step, root]
    simp only [Operation.allReferences_append, Operation.allReferences_singleton,
      Operation.references_new, List.count_append, Option.toList_some]
    omega

theorem fresh_operations {tree : StepTree} {place : Nat} {operation : Operation}
    (mem : operation ∈ tree.operations supply place) :
    operation.status = .pending ∧ operation.calculation = none := by
  induction tree generalizing place with
  | literal text => cases mem
  | step kind left right ihl ihr =>
    simp only [operations, List.mem_append, List.mem_singleton] at mem
    rcases mem with (inLeft | inRight) | rfl
    · exact ihl inLeft
    · exact ihr inRight
    · exact ⟨rfl, rfl⟩

/-- An operation of a tree is referred to once, or it is the one that the operand refers to. -/
theorem count_allReferences_of_mem {tree : StepTree} {place : Nat} {operation : Operation}
    (distinct : (supply.draws place tree.size).Nodup)
    (mem : operation ∈ tree.operations supply place) :
    (Operation.allReferences (tree.operations supply place)).count operation.id =
      if tree.operand supply place = .reference operation.id then 0 else 1 := by
  have drawn : operation.id ∈ supply.draws place tree.size := by
    rw [← map_id_operations]
    exact List.mem_map_of_mem mem
  have total : _ + _ = (supply.draws place tree.size).count operation.id :=
    tree.count_allReferences place operation.id
  rw [List.nodup_iff_count_eq_one.1 distinct _ drawn] at total
  split
  next root =>
    rw [root] at total
    simp only [Operand.reference?, Option.toList_some, List.count_singleton_self] at total
    omega
  next other =>
    rw [List.count_eq_zero.2 (mt Operand.mem_reference?.1 other)] at total
    exact total

/-- The operations before the root of a step are not what its operand refers to. -/
theorem operand_ne_of_mem_parts {kind : Arithmetic} {left right : StepTree} {place : Nat}
    {operation : Operation} (apart : AreApart supply place left right)
    (mem : operation ∈ left.operations supply place ++
      right.operations supply (place + left.size)) :
    (step kind left right).operand supply place ≠ .reference operation.id := by
  intro eq
  have root := Operand.reference.inj eq
  have drawn := List.mem_map_of_mem (f := Operation.id) mem
  rw [List.map_append, map_id_operations, map_id_operations, ← root, List.mem_append] at drawn
  rcases drawn with inLeft | inRight
  · exact apart.rootLeft inLeft
  · exact apart.rootRight inRight

theorem isSingleTree_decomposition (tree : StepTree) (distinct : supply.IsDistinct tree.size) :
    (tree.decomposition supply).IsSingleTree := by
  have ready : IsReady [] (tree.decomposition supply).operations :=
    tree.isReady_operations 0 [] distinct fun _ _ => List.not_mem_nil
  have counted (operation : Operation) (mem : operation ∈ tree.operations supply 0) :=
    count_allReferences_of_mem distinct mem
  constructor
  case ordered => exact OperationOrder.checkOrder_eq_ok_iff.2 ready
  case backward =>
    intro before operation after split id refers
    rw [split] at ready
    exact (ready.mem_before refers).resolve_right List.not_mem_nil
  case fresh => exact fun operation mem => fresh_operations mem
  all_goals unfold decomposition
  case constant => cases tree <;> simp [operand, operations]
  case result => cases tree <;> simp [operand, operations, Operation.new]
  case inner =>
    intro operation mem
    cases tree with
    | literal text => cases mem
    | step kind left right =>
      have inside := List.dropLast_subset _ mem
      rw [operations, List.dropLast_concat] at mem
      exact (counted operation inside).trans
        (if_neg (operand_ne_of_mem_parts (areApart distinct) mem))
  case root =>
    intro operation mem
    cases tree with
    | literal text => cases mem
    | step kind left right =>
      have inside := List.mem_of_getLast? mem
      rw [operations, List.getLast?_concat] at mem
      cases mem
      exact (counted _ inside).trans (if_pos rfl)

end StepTree

/-- A decomposition is a single tree in order of execution. -/
theorem isSingleTree_of_decompose {limit : Limit} {supply : Supply} {text : String}
    {decomposition : Decomposition} (h : decompose limit supply text = .ok decomposition)
    (distinct : supply.IsDistinct decomposition.operations.length) :
    decomposition.IsSingleTree ∧
      (.nil ∉ supply.draws 0 decomposition.operations.length →
        .nil ∉ Operation.allReferences decomposition.operations ∧
          decomposition.result ≠ .reference .nil) := by
  obtain ⟨tree, rfl⟩ := stepTree_of_decompose h
  rw [tree.length_decomposition] at distinct ⊢
  refine ⟨tree.isSingleTree_decomposition distinct, fun genuine => ?_⟩
  have total : _ + _ = (supply.draws 0 tree.size).count .nil := tree.count_allReferences 0 .nil
  rw [List.count_eq_zero.2 genuine, Nat.add_eq_zero_iff] at total
  obtain ⟨used, waiting⟩ := total
  exact ⟨List.count_eq_zero.1 used, mt Operand.mem_reference?.2 (List.count_eq_zero.1 waiting)⟩

/-- Two groups under a quotient, one of them with a sign before it. -/
theorem isSingleTree_of_decompose_quotient :
    ∃ decomposition, decompose .standard (.counting ⟨1⟩) "(1+2)/-(3-4)" = .ok decomposition ∧
      (Supply.counting ⟨1⟩).IsDistinct decomposition.operations.length ∧
      .nil ∉ (Supply.counting ⟨1⟩).draws 0 decomposition.operations.length ∧
      decomposition.IsSingleTree ∧
      .nil ∉ Operation.allReferences decomposition.operations ∧
      decomposition.result ≠ .reference .nil := by
  have decomposed : decompose .standard (.counting ⟨1⟩) "(1+2)/-(3-4)" =
      .ok ⟨[.new ⟨1⟩ .addition (.literal "1") (.literal "2"),
        .new ⟨2⟩ .subtraction (.literal "3") (.literal "4"),
        .new ⟨3⟩ .subtraction (.literal "0") (.reference ⟨2⟩),
        .new ⟨4⟩ .division (.reference ⟨1⟩) (.reference ⟨3⟩)], .reference ⟨4⟩⟩ := by
    decide +kernel
  have distinct : (Supply.counting ⟨1⟩).IsDistinct 4 := by decide +kernel
  have genuine : .nil ∉ (Supply.counting ⟨1⟩).draws 0 4 := by decide +kernel
  obtain ⟨single, nothing⟩ := isSingleTree_of_decompose decomposed distinct
  exact ⟨_, decomposed, distinct, genuine, single, nothing genuine⟩

end Stepwise
