import Mathlib.Data.List.Forall2
import Mathlib.Data.List.Infix
import Stepwise.Proofs.Lowering.SingleTree
import Stepwise.Worklist

/-!
# Shared lists stay in order

Parties that share a list add to it at its end: the operations of an expression, or one new
operation whose references are in the list already. They bind the operations and mark them, but
leave alone what the operations compute. As long as the added operations have identifiers of their
own, the list can be executed after each step (`keeps_of_isRun`). One step is `keeps_apply`: after
it, the identifiers of the list are those before it, followed by those of the added operations.
-/

namespace Stepwise

open OperationOrder (IsReady isReady_append checkOrder_eq_ok_iff)

/-- What an operation computes, and the name under which its result is known. -/
def Operation.core (operation : Operation) : Id × Arithmetic × Operand × Operand :=
  (operation.id, operation.kind, operation.left, operation.right)

theorem Operation.references_congr {operation other : Operation} (h : operation.core = other.core) :
    operation.references = other.references := by
  simp only [core, Prod.mk.injEq] at h
  rw [references, references, h.2.2.1, h.2.2.2]

/-- Whether a list is ready depends only on what its operations compute. -/
theorem OperationOrder.isReady_congr {operations others : List Operation}
    (h : operations.map Operation.core = others.map Operation.core) {earlier : List Id} :
    IsReady earlier operations ↔ IsReady earlier others := by
  induction operations generalizing others earlier with
  | nil =>
    obtain rfl : others = [] := by simpa using h.symm
    rfl
  | cons operation rest ih =>
    obtain ⟨other, tail, rfl, same, sameTail⟩ := List.map_eq_cons_iff.1 h.symm
    have id : other.id = operation.id := congrArg Prod.fst same
    rw [IsReady, IsReady, id, Operation.references_congr same, ih sameTail.symm]

namespace Edit

/-- The steps by which parties share a list. A new operation refers only to operations of the
list. -/
def isShared (operations : List Operation) : Edit → Bool
  | decompose _ _ _ | bind _ | setStatus _ _ => true
  | create id kind left right =>
    (Operation.new id kind left right).references.all
      fun reference => reference ∈ operations.map Operation.id
  | push _ | setOperand _ _ _ | swap _ _ | remove _ | copy _ => false

/-- The identifiers of the operations that a shared step adds. A decomposition that fails adds
none, whatever it drew before. -/
def added : Edit → List Id
  | decompose limit supply text =>
    match Stepwise.decompose limit supply text with
    | .ok decomposition => supply.draws 0 decomposition.operations.length
    | .error _ => []
  | create id _ _ _ => [id]
  | _ => []

/-- The list after several steps. -/
def applyAll (operations : List Operation) (edits : List Edit) : List Operation :=
  edits.foldl (fun operations edit => edit.apply operations) operations

/-- Each step is shared when its turn comes. -/
def isRun : List Operation → List Edit → Bool
  | _, [] => true
  | operations, edit :: rest => edit.isShared operations && isRun (edit.apply operations) rest

/-- What a step keeps: the list can be executed after it, and the operations that were there stay
where they are and compute what they did. A decomposition that fails changes nothing, and binding
changes nothing but the calculation. -/
structure Keeps (edit : Edit) (before after : List Operation) : Prop where
  ordered : checkOrder after = .ok ()
  inPlace : before.map Operation.core <+: after.map Operation.core
  failed : ∀ limit supply text error, edit = decompose limit supply text →
    Stepwise.decompose limit supply text = .error error → after = before
  bound : ∀ calculation, edit = bind calculation →
    List.Forall₂ (fun old new => new = { old with calculation := some calculation }) before after

variable {operations : List Operation}

theorem map_id_of_core {after : List Operation}
    (same : after.map Operation.core = operations.map Operation.core) :
    after.map Operation.id = operations.map Operation.id := by
  have ids := congrArg (List.map Prod.fst) same
  rwa [List.map_map, List.map_map] at ids

theorem map_core_bind (calculation : Id) :
    (operations.map (Operation.bind calculation)).map Operation.core =
      operations.map Operation.core := by
  rw [List.map_map]
  rfl

theorem map_core_modify (operations : List Operation) (index : Nat)
    (change : Operation → Operation)
    (same : ∀ operation, (change operation).core = operation.core) :
    (operations.modify index change).map Operation.core = operations.map Operation.core := by
  apply List.ext_getElem?
  intro i
  rw [List.getElem?_map, List.getElem?_map, List.getElem?_modify]
  cases operations[i]? with
  | none => rfl
  | some operation => by_cases here : index = i <;> simp [here, same]

theorem apply_of_failed (operations : List Operation) {limit : Limit} {supply : Supply}
    {text : String} {error : ExpressionError}
    (failed : Stepwise.decompose limit supply text = .error error) :
    (decompose limit supply text).apply operations = operations ∧
      (decompose limit supply text).added = [] := by
  simp only [apply, added, failed, and_self]

theorem apply_of_decompose (operations : List Operation) {limit : Limit} {supply : Supply}
    {text : String} {decomposition : Decomposition}
    (decomposed : Stepwise.decompose limit supply text = .ok decomposition) :
    (decompose limit supply text).apply operations = operations ++ decomposition.operations ∧
      (decompose limit supply text).added =
        supply.draws 0 decomposition.operations.length := by
  simp only [apply, added, decomposed, and_self]

/-- The operations of an expression have the identifiers that were drawn for them, and are ready
wherever these are unused. -/
theorem isReady_of_decompose {limit : Limit} {supply : Supply} {text : String}
    {decomposition : Decomposition} {earlier : List Id}
    (decomposed : Stepwise.decompose limit supply text = .ok decomposition)
    (distinct : (earlier ++ supply.draws 0 decomposition.operations.length).Nodup) :
    decomposition.operations.map Operation.id =
        supply.draws 0 decomposition.operations.length ∧
      IsReady earlier.reverse decomposition.operations := by
  obtain ⟨tree, rfl⟩ := stepTree_of_decompose decomposed
  rw [tree.length_decomposition] at distinct ⊢
  obtain ⟨-, own, apart⟩ := List.nodup_append.1 distinct
  refine ⟨tree.map_id_decomposition, tree.isReady_operations 0 _ own fun id drawn => ?_⟩
  rw [List.mem_reverse]
  exact fun used => apart id used id drawn rfl

variable {edit : Edit}

theorem keeps_of_ordered (ordered : checkOrder (edit.apply operations) = .ok ())
    (inPlace : operations.map Operation.core <+: (edit.apply operations).map Operation.core) :
    edit.Keeps operations (edit.apply operations) where
  ordered := ordered
  inPlace := inPlace
  failed := by
    rintro limit supply text error rfl failed
    exact (apply_of_failed _ failed).1
  bound := by
    rintro calculation rfl
    rw [apply, List.forall₂_map_right_iff]
    exact List.forall₂_same.2 fun _ _ => rfl

/-- A step that adds operations at the end, which are ready there. -/
theorem keeps_of_append {more : List Operation} (ordered : checkOrder operations = .ok ())
    (grown : edit.apply operations = operations ++ more) (ids : more.map Operation.id = edit.added)
    (ready : IsReady (operations.map Operation.id).reverse more) :
    edit.Keeps operations (edit.apply operations) ∧
      (edit.apply operations).map Operation.id = operations.map Operation.id ++ edit.added := by
  constructor
  · apply keeps_of_ordered
    · rw [checkOrder_eq_ok_iff] at ordered ⊢
      rw [grown, isReady_append, List.append_nil]
      exact ⟨ordered, ready⟩
    · rw [grown, List.map_append]
      exact List.prefix_append _ _
  · rw [grown, List.map_append, ids]

/-- A step that adds nothing, and leaves alone what the operations compute. -/
theorem keeps_of_core (ordered : checkOrder operations = .ok ())
    (same : (edit.apply operations).map Operation.core = operations.map Operation.core)
    (nothing : edit.added = []) :
    edit.Keeps operations (edit.apply operations) ∧
      (edit.apply operations).map Operation.id = operations.map Operation.id ++ edit.added := by
  constructor
  · apply keeps_of_ordered
    · rw [checkOrder_eq_ok_iff] at ordered ⊢
      exact (OperationOrder.isReady_congr same).2 ordered
    · rw [same]
  · rw [map_id_of_core same, nothing, List.append_nil]

/-- One step: it keeps what it should, and the list has the identifiers of the operations that were
there and of those that were added. -/
theorem keeps_apply (shared : edit.isShared operations = true)
    (ordered : checkOrder operations = .ok ())
    (distinct : (operations.map Operation.id ++ edit.added).Nodup) :
    edit.Keeps operations (edit.apply operations) ∧
      (edit.apply operations).map Operation.id = operations.map Operation.id ++ edit.added := by
  cases edit with
  | decompose limit supply text =>
    cases outcome : Stepwise.decompose limit supply text with
    | error error =>
      obtain ⟨same, nothing⟩ := apply_of_failed operations outcome
      exact keeps_of_core ordered (by rw [same]) nothing
    | ok decomposition =>
      obtain ⟨grown, drawn⟩ := apply_of_decompose operations outcome
      rw [drawn] at distinct
      obtain ⟨ids, ready⟩ := isReady_of_decompose outcome distinct
      exact keeps_of_append ordered grown (ids.trans drawn.symm) ready
  | create id kind left right =>
    have within : ∀ reference ∈ (Operation.new id kind left right).references,
        reference ∈ operations.map Operation.id := by
      simpa [isShared, or_imp, forall_and] using shared
    have fresh : id ∉ operations.map Operation.id := fun used =>
      (List.nodup_append.1 distinct).2.2 id used id List.mem_cons_self rfl
    have ready : IsReady (operations.map Operation.id).reverse [.new id kind left right] := by
      simp only [IsReady, List.mem_reverse, and_true]
      exact ⟨within, fresh⟩
    exact keeps_of_append ordered rfl rfl ready
  | bind calculation => exact keeps_of_core ordered (map_core_bind calculation) rfl
  | setStatus index status =>
    have same := map_core_modify operations index (fun operation => { operation with status })
      fun _ => rfl
    exact keeps_of_core ordered same rfl
  | push | setOperand | swap | remove | copy => cases shared

/-- A run of steps: each of them keeps what it should. -/
theorem keeps_applyAll {edits before after : List Edit} (run : isRun operations edits = true)
    (ordered : checkOrder operations = .ok ())
    (distinct : (operations.map Operation.id ++ edits.flatMap added).Nodup)
    (split : edits = before ++ edit :: after) :
    edit.Keeps (applyAll operations before) (applyAll operations (before ++ [edit])) := by
  subst split
  induction before generalizing operations with
  | nil =>
    rw [List.nil_append, isRun, Bool.and_eq_true] at run
    rw [List.nil_append, List.flatMap_cons, ← List.append_assoc] at distinct
    exact (keeps_apply run.1 ordered (List.nodup_append.1 distinct).1).1
  | cons first rest ih =>
    rw [List.cons_append, isRun, Bool.and_eq_true] at run
    rw [List.cons_append, List.flatMap_cons, ← List.append_assoc] at distinct
    obtain ⟨keeps, ids⟩ := keeps_apply run.1 ordered (List.nodup_append.1 distinct).1
    -- What was distinct from the list and the first step is distinct from the list after it.
    rw [← ids] at distinct
    exact ih keeps.ordered run.2 distinct

end Edit

/-- A list that is shared from the start stays in order: each step of a run in which no two added
operations have one identifier keeps what it should. -/
theorem keeps_of_isRun {edits before after : List Edit} {edit : Edit}
    (run : Edit.isRun [] edits = true) (distinct : (edits.flatMap Edit.added).Nodup)
    (split : edits = before ++ edit :: after) :
    edit.Keeps (Edit.applyAll [] before) (Edit.applyAll [] (before ++ [edit])) :=
  Edit.keeps_applyAll run rfl distinct split

/-- Two expressions of which one is refused after it drew an identifier, an operation on the result
of the other one, and marks and a binding in between. -/
theorem keeps_of_isRun_mixed :
    let edits : List Edit := [.decompose .standard (.counting ⟨1⟩) "(1+2)*3",
      .decompose .standard (.counting ⟨3⟩) "1+2+5/0", .setStatus 0 .completed,
      .create ⟨4⟩ .division (.reference ⟨2⟩) (.literal "4"), .bind ⟨9⟩]
    Edit.isRun [] edits = true ∧ (edits.flatMap Edit.added).Nodup ∧
      (Edit.bind ⟨9⟩).Keeps (Edit.applyAll [] (edits.take 4)) (Edit.applyAll [] edits) := by
  intro edits
  have run : Edit.isRun [] edits = true := by decide +kernel
  have distinct : (edits.flatMap Edit.added).Nodup := by decide +kernel
  exact ⟨run, distinct, keeps_of_isRun run distinct rfl⟩

end Stepwise
