import Stepwise.Execution
import Stepwise.Proofs.Decomposer

/-!
# Execution preserves the value

Executing the operations of an expression gives the value of the expression, and gives none exactly
when there is none (`outcome_decompose`). The normal form has the value of the expression because
a folded sign negates the number of a numeral; a tree of steps has the value that its operations
compute because they store their results under identifiers of their own.
-/

namespace Stepwise

namespace Expr

theorem value?_binary {op : Char} {kind : Arithmetic} (known : Arithmetic.ofSymbol? op = some kind)
    (left right : Expr) :
    (binary op left right).value? =
      left.value?.bind fun x => right.value?.bind fun y => kind.value? x y := by
  rw [value?, known]
  cases left.value? <;> cases right.value? <;> rfl

theorem value?_minus (operand : Expr) :
    (unary '-' operand).value? = operand.value?.map (- ·) := rfl

theorem value?_negated {e : Expr} (h : ∀ text, e = literal text → Numeral.isNumeral text = true) :
    e.negated.value? = e.value?.map (- ·) := by
  have subtracted : (binary '-' (literal "0") e).value? = e.value?.map (- ·) := by
    have zero : Numeral.value "0" = 0 := by decide
    rw [value?_binary rfl]
    cases e.value? with
    | none => rfl
    | some x => simp [value?, zero, Arithmetic.value?]
  cases e with
  | literal text =>
    have numeral := h text rfl
    simp only [negated, value?, Numeral.value_negate numeral, Option.map_some]
  | paren | unary | binary => exact subtracted

end Expr

variable {limit : Limit} {supply : Supply}

namespace Lowers

/-- The value that the recursion finds is a literal when the normal form is one, and the same. -/
theorem eq_literal_iff {e : Expr} {tally next : Tally} {operand : Operand}
    (h : Lowers limit supply e tally operand next) (text : String) :
    operand = .literal text ↔ e.normal = .literal text := by
  induction h generalizing text with
  | literal => simp [Expr.normal]
  | paren _ ih => exact ih text
  | @fold inner _ _ folded _ ih =>
    have normal := (ih folded).1 rfl
    simp [Expr.normal, normal, Expr.negated]
  | @negate inner _ next id _ ih =>
    obtain ⟨fresh, asked⟩ :=
      Tally.ask_fst limit supply .subtraction (.literal "0") (.reference id) next
    have unfolded : ∀ text, inner.normal ≠ .literal text := fun text eq => by
      cases (ih text).2 eq
    rw [asked, Expr.normal, if_pos rfl]
    cases normal : inner.normal with
    | literal text => exact absurd normal (unfolded text)
    | paren | unary | binary => simp [Expr.negated]
  | @step op kind left right _ _ next first second =>
    obtain ⟨fresh, asked⟩ := Tally.ask_fst limit supply kind first second next
    simp [asked, Expr.normal]

/-- A minus sign before a tree negates in the normal form as well. -/
theorem value?_normal_minus {e : Expr} {tally next : Tally} {operand : Operand}
    (h : Lowers limit supply e tally operand next) (same : e.normal.value? = e.value?) :
    (Expr.unary '-' e).normal.value? = (Expr.unary '-' e).value? := by
  have numeral : ∀ text, e.normal = .literal text → Numeral.isNumeral text = true := by
    intro text eq
    have spelt := h.isWellSpelt
    rwa [(h.eq_literal_iff text).2 eq] at spelt
  rw [Expr.normal, if_pos rfl, Expr.value?_negated numeral, same, Expr.value?_minus]

/-- The normal form has the value of the expression. -/
theorem value?_normal {e : Expr} {tally next : Tally} {operand : Operand}
    (h : Lowers limit supply e tally operand next) : e.normal.value? = e.value? := by
  induction h with
  | literal => rfl
  | paren _ ih => exact ih
  | fold lowers ih => exact value?_normal_minus lowers ih
  | negate lowers ih => exact value?_normal_minus lowers ih
  | step known _ _ _ ihl ihr =>
    rw [Expr.normal, Expr.value?_binary known, Expr.value?_binary known, ihl, ihr]

/-- A tree whose value is found as a literal has the value of the literal. -/
theorem value?_of_literal {e : Expr} {tally next : Tally} {text : String}
    (h : Lowers limit supply e tally (.literal text) next) :
    e.value? = some (Numeral.value text) := by
  rw [← h.value?_normal, (h.eq_literal_iff text).1 rfl, Expr.value?]

end Lowers

namespace Expr

theorem value?_unary_of_none {operand : Expr} (h : operand.value? = none) (op : Char) :
    (unary op operand).value? = none := by
  rw [value?, h]
  split <;> [rfl; split <;> rfl]

theorem value?_binary_of_none {left right : Expr} (h : left.value? = none ∨ right.value? = none)
    (op : Char) : (binary op left right).value? = none := by
  rw [value?]
  split
  next eqLeft eqRight => rcases h with h | h <;> simp_all
  next => rfl

/-- Nothing is divided by the literal `0`. -/
theorem value?_division_zero {left right : Expr} (h : right.value? = some (Numeral.value "0")) :
    (binary '/' left right).value? = none := by
  have zero : Numeral.value "0" = 0 := by decide
  rw [value?_binary rfl, h, zero]
  cases left.value? with
  | none => rfl
  | some x => simp [Arithmetic.value?]

/-- A tree that is refused for a divisor has no value. -/
theorem value?_of_zeroDivisor {e : Expr} {tally : Tally}
    (h : e.plainValue limit supply tally = .error .zeroDivisor) : e.value? = none := by
  induction e generalizing tally with
  | literal text =>
    unfold plainValue at h
    split at h <;> cases h
  | paren inner ih => exact ih h
  | unary op inner ih =>
    rcases fault_of_bind_eq_error h with found | ⟨⟨operand, next⟩, -, signed⟩
    · exact value?_unary_of_none (ih found) op
    · dsimp only [Tally.sign] at signed
      split at signed
      · cases signed
      · split at signed <;> cases signed
  | binary op left right ihl ihr =>
    rcases fault_of_bind_eq_error h with found | ⟨⟨first, middle⟩, -, rest⟩
    · exact value?_binary_of_none (.inl (ihl found)) op
    rcases fault_of_bind_eq_error rest with found | ⟨⟨second, next⟩, lowered, combined⟩
    · exact value?_binary_of_none (.inr (ihr found)) op
    dsimp only [Tally.combine] at combined
    split at combined
    next => cases combined
    next =>
      split at combined
      next zero =>
        obtain ⟨rfl, rfl⟩ := zero
        exact value?_division_zero (lowers_of_plainValue lowered).value?_of_literal
      next => cases combined

end Expr

namespace StepTree

theorem toExpr_value?_step (kind : Arithmetic) (left right : StepTree) :
    (step kind left right).toExpr.value? =
      left.toExpr.value?.bind fun x => right.toExpr.value?.bind fun y => kind.value? x y :=
  Expr.value?_binary (Arithmetic.ofSymbol?_symbol kind) _ _

end StepTree

/-- What an operand stands for depends only on the result that it refers to. -/
theorem Operand.resolve_congr {operand : Operand} {before after : Results}
    (h : ∀ id, operand = .reference id → after id = before id) :
    operand.resolve after = operand.resolve before := by
  cases operand with
  | literal text => rfl
  | reference id => simp only [resolve, h id rfl]

theorem execute_singleton {operation : Operation} {results : Results} {left right : Option Rat}
    (first : operation.left.resolve results = .ok left)
    (second : operation.right.resolve results = .ok right) (fresh : results operation.id = none) :
    execute results [operation] = .ok (results.store operation.id
      (left.bind fun x => right.bind fun y => operation.kind.value? x y)) := by
  simp only [execute, Operation.execute, first, second, fresh]

/-- Executing the operations of a tree stores its value where its operand looks for it, and stores
nothing but under identifiers of its own. -/
theorem StepTree.execute_operations (tree : StepTree) (place : Nat) (results : Results)
    (distinct : (supply.draws place tree.size).Nodup)
    (fresh : ∀ id ∈ supply.draws place tree.size, results id = none) :
    ∃ after, execute results (tree.operations supply place) = .ok after ∧
      (tree.operand supply place).resolve after = .ok tree.toExpr.value? ∧
      ∀ id, id ∉ supply.draws place tree.size → after id = results id := by
  induction tree generalizing place results with
  | literal text => exact ⟨results, rfl, rfl, fun _ _ => rfl⟩
  | step kind left right ihl ihr =>
    have apart := areApart distinct
    rw [draws_step] at fresh
    -- the operations of the left part
    obtain ⟨middle, runLeft, valueLeft, sameLeft⟩ := ihl place results apart.first fun id mem =>
      fresh id (List.mem_append_left _ (List.mem_append_left _ mem))
    -- those of the right part find their identifiers unused
    obtain ⟨next, runRight, valueRight, sameRight⟩ :=
      ihr (place + left.size) middle apart.second fun id mem => by
        rw [sameLeft id fun memLeft => apart.parts id memLeft mem]
        exact fresh id (List.mem_append_left _ (List.mem_append_right _ mem))
    -- and leave alone what the left operand refers to
    have keptLeft : (left.operand supply place).resolve next = .ok left.toExpr.value? := by
      rw [← valueLeft]
      exact Operand.resolve_congr fun id refers =>
        sameRight id (apart.parts id (mem_draws_of_operand refers))
    have unused : next (supply (place + left.size + right.size)) = none := by
      rw [sameRight _ apart.rootRight, sameLeft _ apart.rootLeft]
      exact fresh _ (List.mem_append_right _ List.mem_cons_self)
    refine ⟨next.store (supply (place + left.size + right.size))
      (step kind left right).toExpr.value?, ?_, ?_, ?_⟩
    · rw [operations, execute_append, execute_append, runLeft]
      dsimp only [Except.bind]
      rw [runRight, toExpr_value?_step]
      exact execute_singleton keptLeft valueRight unused
    · simp [operand, Operand.resolve]
    · intro id outside
      rw [draws_step] at outside
      simp only [List.mem_append, List.mem_singleton, not_or] at outside
      obtain ⟨⟨notLeft, notRight⟩, notRoot⟩ := outside
      rw [Results.store_of_ne _ _ notRoot, sameRight id notRight, sameLeft id notLeft]

/-- The decomposition of a tree of steps comes to the value of the tree. -/
theorem StepTree.outcome_decomposition {tree : StepTree} (distinct : supply.IsDistinct tree.size) :
    (tree.decomposition supply).outcome = .ok tree.toExpr.value? := by
  obtain ⟨after, run, value, -⟩ := tree.execute_operations 0 .empty distinct fun _ _ => rfl
  unfold Decomposition.outcome decomposition
  rw [run]
  exact value

/-- Executing a decomposition gives exactly what the expression evaluates to, and an expression
that is refused for a divisor evaluates to nothing. -/
theorem outcome_decompose (limit : Limit) (supply : Supply) (text : String) :
    (∀ decomposition, decompose limit supply text = .ok decomposition →
      supply.IsDistinct decomposition.operations.length →
      ∃ e, Expr.read text = .ok e ∧ decomposition.outcome = .ok e.value?) ∧
    (decompose limit supply text = .error .divisionByZero →
      ∃ e, Expr.read text = .ok e ∧ e.value? = none) := by
  constructor
  · intro decomposition decomposed distinct
    obtain ⟨e, read, lowered⟩ := lower_of_decompose decomposed
    obtain ⟨tree, normal, rfl, -⟩ := Expr.stepTree_of_lower lowered
    obtain ⟨tally, lowers, -⟩ := Expr.lowers_of_lower lowered
    refine ⟨e, read, ?_⟩
    rw [tree.length_decomposition] at distinct
    rw [StepTree.outcome_decomposition distinct, ← normal, lowers.value?_normal]
  · intro refused
    rcases fault_of_decompose refused with unread | ⟨e, fault, read, failed, reported⟩
    · rcases Expr.eq_empty_or_isSyntaxError_of_read unread with blank | syntactic
      · cases blank
      · cases syntactic
    · obtain rfl := LoweringFault.toError_eq_divisionByZero reported
      rcases Expr.plainValue_of_lower_error failed with found | ⟨count, eq⟩
      · exact ⟨e, read, Expr.value?_of_zeroDivisor found⟩
      · cases eq

/-- A product with a negated sum, and a quotient whose divisor is a zero in disguise. -/
theorem outcome_decompose_signs :
    (∃ decomposition, decompose .standard (.counting .nil) "-(1+2)*3.5" = .ok decomposition ∧
      (Supply.counting .nil).IsDistinct decomposition.operations.length ∧
      ∃ e, Expr.read "-(1+2)*3.5" = .ok e ∧ decomposition.outcome = .ok e.value?) ∧
    decompose .standard (.counting .nil) "1/(2-3)/-(0)" = .error .divisionByZero ∧
      ∃ e, Expr.read "1/(2-3)/-(0)" = .ok e ∧ e.value? = none := by
  have decomposed : decompose .standard (.counting .nil) "-(1+2)*3.5" =
      .ok ⟨[.new ⟨0⟩ .addition (.literal "1") (.literal "2"),
        .new ⟨1⟩ .subtraction (.literal "0") (.reference ⟨0⟩),
        .new ⟨2⟩ .multiplication (.reference ⟨1⟩) (.literal "3.5")], .reference ⟨2⟩⟩ := by
    decide +kernel
  have distinct : (Supply.counting .nil).IsDistinct 3 := by decide +kernel
  have refused : decompose .standard (.counting .nil) "1/(2-3)/-(0)" = .error .divisionByZero := by
    decide +kernel
  exact ⟨⟨_, decomposed, distinct, (outcome_decompose _ _ _).1 _ decomposed distinct⟩, refused,
    (outcome_decompose _ _ _).2 refused⟩

end Stepwise
