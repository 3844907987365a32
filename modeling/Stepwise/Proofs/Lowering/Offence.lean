import Stepwise.Lowering.Outcome
import Stepwise.Proofs.Decomposer
import Stepwise.Proofs.Expr.Reader

/-!
# A tree fails for its first offence

What becomes of a tree that was read is written in the tree. If some node offends, the walk fails
for the first one that does, in the order in which operands are finished; otherwise it asks for as
many operations as the tree costs (`plainValue_cases`). The walk looks at operands and not at
trees, so what it finds for a subtree has to show on the tree: a value is a literal where no binary
operator occurs, and the literal `0` where signs and parentheses hide a `0`. The latter needs that
no zero is ever written with a sign (`Numeral.IsCanonical`).
-/

namespace Stepwise

open Lexeme (isSumOperator isOperatorChar isOperatorChar_iff)

namespace Expr

/-- The literals are unsigned numerals, and the operators are those of the grammar. -/
def isWellSpelt : Expr → Bool
  | literal text => Numeral.isMagnitude text.toList
  | paren inner => inner.isWellSpelt
  | unary op operand => isSumOperator op && operand.isWellSpelt
  | binary op left right => isOperatorChar op && left.isWellSpelt && right.isWellSpelt

theorem isWellSpelt_unary {op : Char} {operand : Expr}
    (h : (unary op operand).isWellSpelt = true) :
    (op = '+' ∨ op = '-') ∧ operand.isWellSpelt = true := by
  simpa [isWellSpelt, isSumOperator] using h

theorem isWellSpelt_binary {op : Char} {left right : Expr}
    (h : (binary op left right).isWellSpelt = true) :
    isOperatorChar op = true ∧ left.isWellSpelt = true ∧ right.isWellSpelt = true := by
  simpa [isWellSpelt, and_assoc] using h

/-- The fault of an offence is reported as one of three errors. -/
theorem toError_of_mem_offences {e : Expr} {fault : LoweringFault} (h : fault ∈ e.offences) :
    (fault = .unsupportedSign '+' ∧ fault.toError = .unsupportedOperator "unary +") ∨
      (fault = .unsupportedOperator '%' ∧ fault.toError = .unsupportedOperator "%") ∨
      (fault = .zeroDivisor ∧ fault.toError = .divisionByZero) := by
  induction e with
  | literal text => cases h
  | paren inner ih => exact ih h
  | unary op operand ih =>
    rw [offences, List.mem_append] at h
    rcases h with inside | here
    · exact ih inside
    · split at here
      · obtain rfl := List.mem_singleton.1 here
        exact .inl ⟨rfl, rfl⟩
      · cases here
  | binary op left right ihl ihr =>
    rw [offences, List.mem_append, List.mem_append] at h
    rcases h with (inLeft | inRight) | here
    · exact ihl inLeft
    · exact ihr inRight
    · split at here
      · obtain rfl := List.mem_singleton.1 here
        exact .inr (.inl ⟨rfl, rfl⟩)
      split at here
      · obtain rfl := List.mem_singleton.1 here
        exact .inr (.inr ⟨rfl, rfl⟩)
      · cases here

end Expr

/-- A derivation is well spelt. -/
theorem Derives.isWellSpelt {level : Level} {e : Expr} (h : Derives level e) :
    e.isWellSpelt = true := by
  induction h with
  | number spelt => exact spelt
  | group _ ih => exact ih
  | sign isSum _ ih => simp [Expr.isWellSpelt, isSum, ih]
  | tight _ ih => exact ih
  | loose _ ih => exact ih
  | product isProduct _ _ ihl ihr =>
    have known := isOperatorChar_iff.2 (.inr isProduct)
    simp [Expr.isWellSpelt, known, ihl, ihr]
  | sum isSum _ _ ihl ihr =>
    have known := isOperatorChar_iff.2 (.inl isSum)
    simp [Expr.isWellSpelt, known, ihl, ihr]

/-- An operator of the grammar that no arithmetic stands for is the remainder. -/
theorem Arithmetic.eq_remainder_of_ofSymbol? {op : Char} (known : isOperatorChar op = true)
    (h : ofSymbol? op = none) : op = '%' := by
  simp only [isOperatorChar, Bool.or_eq_true, beq_iff_eq] at known
  rcases known with (((rfl | rfl) | rfl) | rfl) | rfl <;> first | rfl | cases h

variable {limit : Limit} {supply : Supply}

namespace Lowers

/-- The value of a tree is a literal exactly if no binary operator occurs in it. -/
theorem isNone_literal? {e : Expr} {tally next : Tally} {operand : Operand}
    (h : Lowers limit supply e tally operand next) : operand.literal?.isNone = e.hasBinary := by
  induction h with
  | literal => rfl
  | paren _ ih => exact ih
  | fold _ ih => exact ih
  | @negate _ _ next id _ ih =>
    obtain ⟨fresh, eq⟩ :=
      Tally.ask_fst limit supply .subtraction (.literal "0") (.reference id) next
    rw [eq]
    exact ih
  | @step _ kind _ _ _ _ next first second =>
    obtain ⟨fresh, eq⟩ := Tally.ask_fst limit supply kind first second next
    rw [eq]
    rfl

/-- A tree asks for as many operations as it costs. -/
theorem asked_eq {e : Expr} {tally next : Tally} {operand : Operand}
    (h : Lowers limit supply e tally operand next) : next.asked = tally.asked + e.cost := by
  induction h with
  | literal => rfl
  | paren _ ih => exact ih
  | fold lowers ih =>
    have folded : _ = _ := lowers.isNone_literal?
    rw [Expr.cost, ih, ← folded]
    rfl
  | negate lowers ih =>
    have counted : _ = _ := lowers.isNone_literal?
    rw [Tally.asked_ask, Expr.cost, ih, ← counted]
    rfl
  | step _ _ _ _ ihl ihr =>
    rw [Tally.asked_ask, Expr.cost, ihr, ihl]
    omega

/-- In the value of a tree that is well spelt, no zero has a sign. -/
theorem isCanonical {e : Expr} {tally next : Tally} {operand : Operand}
    (h : Lowers limit supply e tally operand next) (spelt : e.isWellSpelt = true) :
    ∀ text, operand = .literal text → Numeral.IsCanonical text := by
  induction h with
  | literal =>
    rintro text ⟨rfl⟩
    exact .inl spelt
  | paren _ ih => exact ih spelt
  | @fold _ _ _ folded _ ih =>
    rintro text ⟨rfl⟩
    exact Numeral.isCanonical_negate (ih (Expr.isWellSpelt_unary spelt).2 folded rfl)
  | negate | step =>
    intro text eq
    obtain ⟨fresh, isReference⟩ := Tally.ask_fst limit supply _ _ _ _
    rw [isReference] at eq
    cases eq

/-- The value of a tree is the literal `0` exactly if signs and parentheses hide a `0`. -/
theorem eq_zero_iff {e : Expr} {tally next : Tally} {operand : Operand}
    (h : Lowers limit supply e tally operand next) (spelt : e.isWellSpelt = true) :
    operand = .literal "0" ↔ e.isZero = true := by
  induction h with
  | literal => simp [Expr.isZero]
  | paren _ ih => exact ih spelt
  | @fold _ _ _ text lowers ih =>
    have inner := (Expr.isWellSpelt_unary spelt).2
    have canonical := lowers.isCanonical inner text rfl
    have ih := ih inner
    rw [Operand.literal.injEq] at ih ⊢
    rw [Numeral.negate_eq_zero_iff canonical, ih]
    simp [Expr.isZero]
  | @negate _ _ next id _ ih =>
    have ih := ih (Expr.isWellSpelt_unary spelt).2
    obtain ⟨fresh, eq⟩ :=
      Tally.ask_fst limit supply .subtraction (.literal "0") (.reference id) next
    rw [eq]
    simpa [Expr.isZero] using ih
  | @step _ kind _ _ _ _ next first second =>
    obtain ⟨fresh, eq⟩ := Tally.ask_fst limit supply kind first second next
    rw [eq]
    simp [Expr.isZero]

/-- A tree that has a value offends against nothing. -/
theorem offences_eq_nil {e : Expr} {tally next : Tally} {operand : Operand}
    (h : Lowers limit supply e tally operand next) (spelt : e.isWellSpelt = true) :
    e.offences = [] := by
  induction h with
  | literal => rfl
  | paren _ ih => exact ih spelt
  | fold _ ih | negate _ ih =>
    rw [Expr.offences, ih (Expr.isWellSpelt_unary spelt).2]
    rfl
  | @step op kind left right _ _ _ _ second known nonzero lowersLeft lowersRight ihl ihr =>
    obtain ⟨-, speltLeft, speltRight⟩ := Expr.isWellSpelt_binary spelt
    have notRemainder : op ≠ '%' := by
      rintro rfl
      cases known
    rw [lowersRight.eq_zero_iff speltRight] at nonzero
    rw [Expr.offences, ihl speltLeft, ihr speltRight, if_neg notRemainder, if_neg nonzero]
    rfl

end Lowers

namespace Expr

/-- A tree that has no value fails for the first of its offences. -/
theorem head?_offences_of_plainValue {e : Expr} {tally : Tally} {fault : LoweringFault}
    (spelt : e.isWellSpelt = true) (h : e.plainValue limit supply tally = .error fault) :
    e.offences.head? = some fault := by
  induction e generalizing tally with
  | literal text =>
    have numeral : Numeral.isNumeral text = true := Numeral.isNumeral_iff.2 (.inl spelt)
    rw [plainValue, if_pos numeral] at h
    cases h
  | paren inner ih => exact ih spelt h
  | unary op operand ih =>
    obtain ⟨sign, inner⟩ := isWellSpelt_unary spelt
    rcases fault_of_bind_eq_error h with found | ⟨⟨value, next⟩, lowered, signed⟩
    · rw [offences, List.head?_append, ih inner found]
      rfl
    · have nothing := (lowers_of_plainValue lowered).offences_eq_nil inner
      rcases sign with rfl | rfl
      · cases signed
        rw [offences, nothing]
        rfl
      · cases value <;> cases signed
  | binary op left right ihl ihr =>
    obtain ⟨known, speltLeft, speltRight⟩ := isWellSpelt_binary spelt
    rcases fault_of_bind_eq_error h with found | ⟨⟨first, middle⟩, loweredLeft, rest⟩
    · rw [offences, List.head?_append, List.head?_append, ihl speltLeft found]
      rfl
    have nothingLeft := (lowers_of_plainValue loweredLeft).offences_eq_nil speltLeft
    rcases fault_of_bind_eq_error rest with found | ⟨⟨second, next⟩, loweredRight, combined⟩
    · rw [offences, List.head?_append, nothingLeft, List.nil_append, ihr speltRight found]
      rfl
    have foundRight := lowers_of_plainValue loweredRight
    have nothingRight := foundRight.offences_eq_nil speltRight
    have zero := foundRight.eq_zero_iff speltRight
    rw [offences, nothingLeft, nothingRight, List.nil_append, List.nil_append]
    dsimp only [Tally.combine] at combined
    split at combined
    next unknown =>
      cases combined
      obtain rfl := Arithmetic.eq_remainder_of_ofSymbol? known unknown
      rfl
    next kind isKind =>
      split at combined
      next divides =>
        cases combined
        obtain ⟨rfl, rfl⟩ := divides
        have hidden : right.isZero = true := zero.1 rfl
        rw [if_neg (by decide), if_pos ⟨rfl, hidden⟩]
        rfl
      next => cases combined

/-- Either the walk of a tree fails for the first offence, or nothing offends and it asks for as
many operations as the tree costs. -/
theorem plainValue_cases (limit : Limit) (supply : Supply) {e : Expr}
    (spelt : e.isWellSpelt = true) (tally : Tally) :
    (∃ fault, e.plainValue limit supply tally = .error fault ∧ e.offences.head? = some fault) ∨
      (∃ operand next, e.plainValue limit supply tally = .ok (operand, next) ∧ e.offences = [] ∧
        Lowers limit supply e tally operand next) := by
  cases outcome : e.plainValue limit supply tally with
  | error fault => exact .inl ⟨fault, rfl, head?_offences_of_plainValue spelt outcome⟩
  | ok result =>
    obtain ⟨operand, next⟩ := result
    have lowers := lowers_of_plainValue outcome
    exact .inr ⟨operand, next, rfl, lowers.offences_eq_nil spelt, lowers⟩

/-- A tree with an offence is refused for its first offence, whatever the limit. -/
theorem lower_of_offence {e : Expr} (spelt : e.isWellSpelt = true) {fault : LoweringFault}
    (first : e.offences.head? = some fault) : e.lower limit supply = .error fault := by
  rw [lower_eq_bind]
  rcases plainValue_cases limit supply spelt .empty with ⟨other, failed, eq⟩ | ⟨_, _, _, nothing, _⟩
  · obtain rfl : other = fault := Option.some.inj (eq.symm.trans first)
    rw [failed]
    rfl
  · rw [nothing] at first
    cases first

/-- A tree without offences is taken apart into as many operations as it costs, if the limit
allows so many. -/
theorem lower_of_cost (limit : Limit) (supply : Supply) {e : Expr} (spelt : e.isWellSpelt = true)
    (nothing : e.offences = []) :
    (e.cost ≤ limit.maxOperations → ∃ decomposition,
      e.lower limit supply = .ok decomposition ∧ decomposition.operations.length = e.cost) ∧
    (limit.maxOperations < e.cost →
      e.lower limit supply = .error (.tooMany e.cost limit.maxOperations)) := by
  rcases plainValue_cases limit supply spelt .empty with
    ⟨fault, _, first⟩ | ⟨operand, next, found, _, lowers⟩
  · rw [nothing] at first
    cases first
  have asked : next.asked = e.cost := lowers.asked_eq.trans (Nat.zero_add _)
  rw [lower_eq_bind, found]
  dsimp only [Except.bind]
  rw [Lowering.finish_emitter, asked]
  constructor
  · intro within
    rw [if_pos within]
    obtain ⟨tree, -, isKept⟩ := lowers.stepTree rfl (by omega)
    have length : next.kept.length = e.cost := isKept.full.symm.trans asked
    exact ⟨_, rfl, length⟩
  · intro beyond
    rw [if_neg (by omega)]

/-- A tree that is well spelt is taken apart, or refused for an offence or for its cost. -/
theorem lower_cases (limit : Limit) (supply : Supply) {e : Expr} (spelt : e.isWellSpelt = true) :
    (∃ decomposition, e.lower limit supply = .ok decomposition) ∨
      (∃ fault ∈ e.offences, e.lower limit supply = .error fault) ∨
      e.lower limit supply = .error (.tooMany e.cost limit.maxOperations) := by
  cases first : e.offences.head? with
  | some fault =>
    exact .inr (.inl ⟨fault, List.mem_of_head? first, lower_of_offence spelt first⟩)
  | none =>
    have outcome := lower_of_cost limit supply spelt (List.head?_eq_none_iff.1 first)
    by_cases within : e.cost ≤ limit.maxOperations
    · obtain ⟨decomposition, lowered, -⟩ := outcome.1 within
      exact .inl ⟨decomposition, lowered⟩
    · exact .inr (.inr (outcome.2 (by omega)))

end Expr

/-- What decomposing a well-formed expression comes to is written in its tree: the error of the
first node that offends, or else as many operations as the tree costs, or else the refusal of so
many. -/
theorem decompose_of_tree {text : String} {e : Expr} (read : Expr.read text = .ok e)
    (limit : Limit) (supply : Supply) :
    (∀ fault, e.offences.head? = some fault →
      decompose limit supply text = .error fault.toError ∧
      ((fault = .unsupportedSign '+' ∧ fault.toError = .unsupportedOperator "unary +") ∨
        (fault = .unsupportedOperator '%' ∧ fault.toError = .unsupportedOperator "%") ∨
        (fault = .zeroDivisor ∧ fault.toError = .divisionByZero))) ∧
    (e.offences = [] → e.cost ≤ limit.maxOperations → ∃ decomposition,
      decompose limit supply text = .ok decomposition ∧
      decomposition.operations.length = e.cost) ∧
    (e.offences = [] → limit.maxOperations < e.cost →
      decompose limit supply text = .error
        (.tooComplex s!"{e.cost} operations exceed maximum of {limit.maxOperations}")) := by
  have spelt : e.isWellSpelt = true := (Expr.derives_of_read read).isWellSpelt
  rw [decompose_of_read read]
  refine ⟨?_, ?_, ?_⟩
  · intro fault first
    rw [Expr.lower_of_offence spelt first]
    exact ⟨rfl, Expr.toError_of_mem_offences (List.mem_of_head? first)⟩
  · intro nothing within
    obtain ⟨decomposition, lowered, length⟩ :=
      (Expr.lower_of_cost limit supply spelt nothing).1 within
    exact ⟨decomposition, mapError_eq_ok_iff.2 lowered, length⟩
  · intro nothing beyond
    rw [(Expr.lower_of_cost limit supply spelt nothing).2 beyond]
    rfl

/-- Two offences, the first of which hides in the dividend of the second, and a product of two signs
of which one costs an operation. -/
theorem decompose_of_tree_signs :
    (∃ e, Expr.read "1%2/(-0)" = .ok e ∧
      e.offences = [.unsupportedOperator '%', .zeroDivisor] ∧
      decompose .standard (.counting .nil) "1%2/(-0)" = .error (.unsupportedOperator "%")) ∧
    ∃ e, Expr.read "-(1+2)*-3" = .ok e ∧ e.offences = [] ∧ e.cost = 3 ∧
      (∃ decomposition, decompose ⟨3⟩ (.counting .nil) "-(1+2)*-3" = .ok decomposition ∧
        decomposition.operations.length = 3) ∧
      decompose ⟨2⟩ (.counting .nil) "-(1+2)*-3" =
        .error (.tooComplex "3 operations exceed maximum of 2") := by
  have remainder : Expr.read "1%2/(-0)" = .ok (.binary '/'
      (.binary '%' (.literal "1") (.literal "2"))
      (.paren (.unary '-' (.literal "0")))) := by
    decide +kernel
  have product : Expr.read "-(1+2)*-3" = .ok (.binary '*'
      (.unary '-' (.paren (.binary '+' (.literal "1") (.literal "2"))))
      (.unary '-' (.literal "3"))) := by
    decide +kernel
  constructor
  · have outcome := (decompose_of_tree remainder .standard (.counting .nil)).1
    exact ⟨_, remainder, rfl, (outcome (.unsupportedOperator '%') rfl).1⟩
  · refine ⟨_, product, rfl, rfl, ?_, ?_⟩
    · exact (decompose_of_tree product ⟨3⟩ (.counting .nil)).2.1 rfl (by decide)
    · exact (decompose_of_tree product ⟨2⟩ (.counting .nil)).2.2 rfl (by decide)

end Stepwise
