import Stepwise.Execution
import Stepwise.Lowering.Outcome
import Stepwise.Proofs.Lowering.Recursion

/-!
# Trees of steps

A tree of steps is a normal tree all of whose operators can be executed. Its decomposition needs
neither a limit nor a stack: `StepTree.operations` writes down the operations of the left tree,
those of the right one, and the one for the root, and each operation takes the identifier at its
own place in the supply. Main statement here: a tree that is taken apart within the limit comes
to the decomposition of the tree of steps that is its normal form (`Expr.stepTree_of_lower`).
-/

namespace Stepwise

/-- The identifiers at `count` places of the supply, from `place` on. -/
def Supply.draws (supply : Supply) (place count : Nat) : List Id :=
  (List.range' place count).map supply

/-- The first `count` identifiers are pairwise distinct. -/
def Supply.IsDistinct (supply : Supply) (count : Nat) : Prop :=
  (supply.draws 0 count).Nodup

instance (supply : Supply) (count : Nat) : Decidable (supply.IsDistinct count) :=
  inferInstanceAs (Decidable (supply.draws 0 count).Nodup)

theorem Supply.draws_add (supply : Supply) (place first second : Nat) :
    supply.draws place (first + second) =
      supply.draws place first ++ supply.draws (place + first) second := by
  unfold draws
  rw [← List.map_append, List.range'_append_1]

@[simp] theorem Supply.draws_one (supply : Supply) (place : Nat) :
    supply.draws place 1 = [supply place] := rfl

/-- A tree whose nodes are literals and single steps. -/
inductive StepTree where
  | literal (text : String)
  | step (kind : Arithmetic) (left right : StepTree)
deriving DecidableEq, Repr

namespace StepTree

/-- The tree as an expression. -/
def toExpr : StepTree → Expr
  | literal text => .literal text
  | step kind left right => .binary kind.symbol left.toExpr right.toExpr

/-- The number of steps. -/
def size : StepTree → Nat
  | literal _ => 0
  | step _ left right => left.size + right.size + 1

/-- The tree with a minus sign before it. -/
def negated : StepTree → StepTree
  | literal text => literal (Numeral.negate text)
  | step kind left right => step .subtraction (literal "0") (step kind left right)

/-- The operand that stands for the tree, when its operations start at `place`. -/
def operand (supply : Supply) (place : Nat) : StepTree → Operand
  | literal text => .literal text
  | step _ left right => .reference (supply (place + left.size + right.size))

/-- The operations of the tree, the first of which stands at `place`. -/
def operations (supply : Supply) (place : Nat) : StepTree → List Operation
  | literal _ => []
  | step kind left right =>
    left.operations supply place ++ right.operations supply (place + left.size) ++
      [.new (supply (place + left.size + right.size)) kind (left.operand supply place)
        (right.operand supply (place + left.size))]

/-- The decomposition of the tree. -/
def decomposition (supply : Supply) (tree : StepTree) : Decomposition :=
  ⟨tree.operations supply 0, tree.operand supply 0⟩

variable {supply : Supply}

@[simp] theorem toExpr_negated (tree : StepTree) : tree.negated.toExpr = tree.toExpr.negated := by
  cases tree <;> rfl

@[simp] theorem length_operations (place : Nat) (tree : StepTree) :
    (tree.operations supply place).length = tree.size := by
  induction tree generalizing place with
  | literal text => rfl
  | step kind left right ihl ihr =>
    simp [operations, size, ihl, ihr, Nat.add_assoc]

@[simp] theorem length_decomposition (tree : StepTree) :
    (tree.decomposition supply).operations.length = tree.size :=
  tree.length_operations 0

theorem draws_step (kind : Arithmetic) (left right : StepTree) (place : Nat) :
    supply.draws place (step kind left right).size =
      supply.draws place left.size ++ supply.draws (place + left.size) right.size ++
        [supply (place + left.size + right.size)] := by
  rw [size, Supply.draws_add, Supply.draws_add, Supply.draws_one, Nat.add_assoc]

/-- Each operation carries the identifier at its own place. -/
@[simp] theorem map_id_operations (place : Nat) (tree : StepTree) :
    (tree.operations supply place).map Operation.id = supply.draws place tree.size := by
  induction tree generalizing place with
  | literal text => rfl
  | step kind left right ihl ihr =>
    simp [operations, draws_step, ihl, ihr, Operation.new]

@[simp] theorem map_id_decomposition (tree : StepTree) :
    (tree.decomposition supply).operations.map Operation.id = supply.draws 0 tree.size :=
  tree.map_id_operations 0

/-- A tree refers only to identifiers of its own operations. -/
theorem mem_draws_of_operand {tree : StepTree} {place : Nat} {id : Id}
    (h : tree.operand supply place = .reference id) : id ∈ supply.draws place tree.size := by
  cases tree with
  | literal text => cases h
  | step kind left right =>
    cases h
    rw [draws_step]
    exact List.mem_append_right _ List.mem_cons_self

/-- The identifiers of the two parts of a step are distinct, apart from one another, and apart from
the identifier of the step. -/
structure AreApart (supply : Supply) (place : Nat) (left right : StepTree) : Prop where
  first : (supply.draws place left.size).Nodup
  second : (supply.draws (place + left.size) right.size).Nodup
  parts : ∀ id ∈ supply.draws place left.size, id ∉ supply.draws (place + left.size) right.size
  rootLeft : supply (place + left.size + right.size) ∉ supply.draws place left.size
  rootRight : supply (place + left.size + right.size) ∉
    supply.draws (place + left.size) right.size

theorem areApart {kind : Arithmetic} {left right : StepTree} {place : Nat}
    (h : (supply.draws place (step kind left right).size).Nodup) :
    AreApart supply place left right := by
  rw [draws_step] at h
  obtain ⟨both, -, root⟩ := List.nodup_append.1 h
  obtain ⟨first, second, parts⟩ := List.nodup_append.1 both
  refine ⟨first, second, ?_, ?_, ?_⟩
  · intro id memLeft memRight
    exact parts id memLeft id memRight rfl
  · intro mem
    exact root _ (List.mem_append_left _ mem) _ List.mem_cons_self rfl
  · intro mem
    exact root _ (List.mem_append_right _ mem) _ List.mem_cons_self rfl

end StepTree

variable {limit : Limit} {supply : Supply}

/-- From one tally to the next exactly the operations of the tree were kept, and the operand stands
for the tree. -/
structure StepTree.IsKept (supply : Supply) (tree : StepTree) (tally : Tally) (operand : Operand)
    (next : Tally) : Prop where
  value : operand = tree.operand supply tally.kept.length
  kept : next.kept = tally.kept ++ tree.operations supply tally.kept.length
  full : next.asked = next.kept.length

namespace StepTree.IsKept

theorem literal {tally : Tally} (full : tally.asked = tally.kept.length) (text : String) :
    (StepTree.literal text).IsKept supply tally (.literal text) tally :=
  ⟨rfl, (List.append_nil _).symm, full⟩

theorem length_kept {tree : StepTree} {tally next : Tally} {operand : Operand}
    (h : tree.IsKept supply tally operand next) :
    next.kept.length = tally.kept.length + tree.size := by
  simp [h.kept]

/-- After the operations of two trees, the next one that is asked for makes them one tree. -/
theorem step {left right : StepTree} {tally middle next : Tally} {first second : Operand}
    (before : left.IsKept supply tally first middle)
    (after : right.IsKept supply middle second next) (kind : Arithmetic)
    (room : next.asked < limit.maxOperations) :
    (StepTree.step kind left right).IsKept supply tally
      (next.ask limit supply kind first second).1 (next.ask limit supply kind first second).2 := by
  have place : next.kept.length = tally.kept.length + left.size + right.size := by
    rw [after.length_kept, before.length_kept]
  have asked : next.ask limit supply kind first second =
      (.reference (supply next.kept.length),
        ⟨next.kept ++ [.new (supply next.kept.length) kind first second], next.asked + 1⟩) :=
    if_pos room
  rw [asked]
  refine ⟨?_, ?_, ?_⟩
  · rw [place]; rfl
  · rw [place, after.kept, before.value, after.value, before.length_kept, before.kept]
    simp only [operations, List.append_assoc]
  · simp only [List.length_append, List.length_singleton, after.full]

end StepTree.IsKept

/-- Within the limit, a value that the recursion finds and the operations that it adds are those of
a tree of steps. -/
theorem Lowers.stepTree {e : Expr} {tally next : Tally} {operand : Operand}
    (h : Lowers limit supply e tally operand next) (full : tally.asked = tally.kept.length)
    (within : next.asked ≤ limit.maxOperations) :
    ∃ tree : StepTree, e.normal = tree.toExpr ∧ tree.IsKept supply tally operand next := by
  induction h with
  | @literal text => exact ⟨.literal text, rfl, .literal full text⟩
  | paren _ ih => exact ih full within
  | @fold inner tally next text _ ih =>
    obtain ⟨tree, normal, isKept⟩ := ih full within
    cases tree with
    | literal text =>
      cases isKept.value
      refine ⟨.literal (Numeral.negate text), ?_, ⟨rfl, isKept.kept, isKept.full⟩⟩
      simp only [Expr.normal, if_true, normal, StepTree.toExpr, Expr.negated]
    | step kind left right => cases isKept.value
  | @negate inner tally next id _ ih =>
    have room : next.asked < limit.maxOperations := by simpa [Nat.add_one_le_iff] using within
    obtain ⟨tree, normal, isKept⟩ := ih full (Nat.le_of_lt room)
    cases tree with
    | literal text => cases isKept.value
    | step kind left right =>
      have zero : (StepTree.literal "0").IsKept supply tally (.literal "0") tally :=
        .literal full "0"
      refine ⟨.negated (.step kind left right), ?_, zero.step isKept _ room⟩
      rw [StepTree.toExpr_negated, ← normal]
      rfl
  | @step op kind left right tally middle next first second known _ _ lowersRight ihl ihr =>
    have room : next.asked < limit.maxOperations := by simpa [Nat.add_one_le_iff] using within
    have less := lowersRight.asked_le
    obtain ⟨leftTree, leftNormal, before⟩ := ihl full (by omega)
    obtain ⟨rightTree, rightNormal, after⟩ := ihr before.full (by omega)
    refine ⟨.step kind leftTree rightTree, ?_, before.step after kind room⟩
    rw [Expr.normal, leftNormal, rightNormal, StepTree.toExpr, Arithmetic.symbol_of_ofSymbol? known]

/-- A tree that is taken apart comes to the decomposition of a tree of steps within the limit. -/
theorem Expr.stepTree_of_lower {e : Expr} {decomposition : Decomposition}
    (h : e.lower limit supply = .ok decomposition) :
    ∃ tree : StepTree, e.normal = tree.toExpr ∧ decomposition = tree.decomposition supply ∧
      tree.size ≤ limit.maxOperations := by
  obtain ⟨tally, lowers, within, operations⟩ := lowers_of_lower h
  obtain ⟨tree, normal, isKept⟩ := lowers.stepTree rfl within
  refine ⟨tree, normal, ?_, ?_⟩
  · calc decomposition = ⟨decomposition.operations, decomposition.result⟩ := rfl
      _ = ⟨tally.kept, tree.operand supply 0⟩ := by rw [operations, isKept.value]; rfl
      _ = tree.decomposition supply := by rw [isKept.kept]; rfl
  · have length := isKept.length_kept
    rw [← isKept.full] at length
    change tally.asked = 0 + tree.size at length
    omega

end Stepwise
