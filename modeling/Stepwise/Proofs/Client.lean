import Stepwise.Client
import Stepwise.Proofs.Lowering.Offence

/-!
# Validation answers for decomposition

A text is invalid exactly if decomposing refuses it for its syntax, and then the two report the same
error (`validate_agrees`). The walk of a tree has faults of its own for a literal that is no
numeral and for an operator without an operand, and both would be reported as syntax errors. But a
tree that was read is well spelt, so its walk is refused only for an offence or for its cost. What
a client is told follows by class.
-/

namespace Stepwise

theorem validate_eq_error_iff {text : String} {error : ExpressionError} :
    validate text = .error error ↔ Expr.read text = .error error := by
  unfold validate
  cases Expr.read text <;> simp

theorem validate_eq_ok_iff {text : String} :
    validate text = .ok () ↔ ∃ e, Expr.read text = .ok e := by
  unfold validate
  cases Expr.read text <;> simp

namespace ExpressionError

/-- Errors about the text itself are reported to clients as invalid expressions. -/
theorem toClient_of_syntax {error : ExpressionError}
    (h : error = .empty ∨ error.isSyntaxError = true) :
    error.toClient = .invalidExpression error.message := by
  rcases h with rfl | syntactic
  · rfl
  · cases error <;> first | rfl | cases syntactic

/-- No error is reported to clients as internal. -/
theorem toClient_ne_internal (error : ExpressionError) (message : String) :
    error.toClient ≠ .internal message := by
  cases error <;> exact nofun

end ExpressionError

/-- Decomposing what was read fails for what the text asks for, and not for how it is written. -/
theorem decompose_cases (limit : Limit) (supply : Supply) {text : String} {e : Expr}
    (read : Expr.read text = .ok e) :
    (∃ decomposition, decompose limit supply text = .ok decomposition) ∨
      (∃ operator, decompose limit supply text = .error (.unsupportedOperator operator)) ∨
      decompose limit supply text = .error .divisionByZero ∨
      ∃ message, decompose limit supply text = .error (.tooComplex message) := by
  have spelt : e.isWellSpelt = true := (Expr.derives_of_read read).isWellSpelt
  rw [decompose_of_read read]
  rcases Expr.lower_cases limit supply spelt with
    ⟨decomposition, lowered⟩ | ⟨fault, offence, refused⟩ | refused
  · exact .inl ⟨decomposition, mapError_eq_ok_iff.2 lowered⟩
  · rw [refused]
    rcases Expr.toError_of_mem_offences offence with ⟨-, eq⟩ | ⟨-, eq⟩ | ⟨-, eq⟩
    · exact .inr (.inl ⟨"unary +", congrArg Except.error eq⟩)
    · exact .inr (.inl ⟨"%", congrArg Except.error eq⟩)
    · exact .inr (.inr (.inl (congrArg Except.error eq)))
  · rw [refused]
    exact .inr (.inr (.inr ⟨_, rfl⟩))

/-- What was read is neither blank nor malformed, so decomposing it reports neither. -/
theorem isSyntaxError_of_decompose {limit : Limit} {supply : Supply} {text : String} {e : Expr}
    {error : ExpressionError} (read : Expr.read text = .ok e)
    (refused : decompose limit supply text = .error error) :
    error ≠ .empty ∧ error.isSyntaxError = false := by
  rcases decompose_cases limit supply read with
    ⟨decomposition, eq⟩ | ⟨operator, eq⟩ | eq | ⟨message, eq⟩
  · rw [eq] at refused
    cases refused
  all_goals
    obtain rfl := Except.error.inj (eq.symm.trans refused)
    exact ⟨nofun, rfl⟩

/-- Validation and decomposition agree: a text is invalid exactly if decomposing refuses it as blank
or for its syntax, with the same error, and decomposing a valid text fails for none of these
reasons. Clients are told the same: validating reports invalid expressions only, decomposing fails
with the same error where validating fails, and never with an internal one. -/
theorem validate_agrees (limit : Limit) (supply : Supply) (text : String) :
    (∀ error, validate text = .error error ↔
      decompose limit supply text = .error error ∧
        (error = .empty ∨ error.isSyntaxError = true)) ∧
    (validate text = .ok () →
      (∃ decomposition, decompose limit supply text = .ok decomposition) ∨
      (∃ operator, decompose limit supply text = .error (.unsupportedOperator operator)) ∨
      decompose limit supply text = .error .divisionByZero ∨
      ∃ message, decompose limit supply text = .error (.tooComplex message)) ∧
    (∀ error, Client.validate text = .error error →
      (∃ message, error = .invalidExpression message) ∧
        Client.decompose limit supply text = .error error) ∧
    (∀ message, Client.decompose limit supply text ≠ .error (.internal message)) := by
  refine ⟨?_, ?_, ?_, ?_⟩
  · intro error
    rw [validate_eq_error_iff]
    constructor
    · intro unread
      exact ⟨decompose_of_unread unread, Expr.eq_empty_or_isSyntaxError_of_read unread⟩
    · rintro ⟨refused, aboutText⟩
      cases read : Expr.read text with
      | error other =>
        obtain rfl := Except.error.inj ((decompose_of_unread read).symm.trans refused)
        rfl
      | ok e =>
        obtain ⟨notBlank, notSyntactic⟩ := isSyntaxError_of_decompose read refused
        rcases aboutText with blank | syntactic
        · exact absurd blank notBlank
        · rw [notSyntactic] at syntactic
          cases syntactic
  · intro valid
    obtain ⟨e, read⟩ := validate_eq_ok_iff.1 valid
    exact decompose_cases limit supply read
  · intro error refused
    obtain ⟨reported, invalid, rfl⟩ := mapError_eq_error_iff.1 refused
    have unread := validate_eq_error_iff.1 invalid
    have aboutText := Expr.eq_empty_or_isSyntaxError_of_read unread
    refine ⟨⟨_, ExpressionError.toClient_of_syntax aboutText⟩, ?_⟩
    exact mapError_eq_error_iff.2 ⟨reported, decompose_of_unread unread, rfl⟩
  · intro message refused
    obtain ⟨reported, -, internal⟩ := mapError_eq_error_iff.1 refused
    exact reported.toClient_ne_internal message internal

/-- A valid text that asks for a division by zero, and an invalid one. -/
theorem validate_agrees_quotients :
    validate "1/-(0)" = .ok () ∧
    ((∃ decomposition, decompose .standard (.counting .nil) "1/-(0)" = .ok decomposition) ∨
      (∃ operator, decompose .standard (.counting .nil) "1/-(0)" =
        .error (.unsupportedOperator operator)) ∨
      decompose .standard (.counting .nil) "1/-(0)" = .error .divisionByZero ∨
      ∃ message, decompose .standard (.counting .nil) "1/-(0)" = .error (.tooComplex message)) ∧
    ∃ error, Client.validate "1/()" = .error error ∧
      (∃ message, error = .invalidExpression message) ∧
      Client.decompose .standard (.counting .nil) "1/()" = .error error := by
  have valid : validate "1/-(0)" = .ok () := by decide +kernel
  have invalid : Client.validate "1/()" = .error (.invalidExpression
      "invalid parenthesized expression: empty parentheses at position 2") := by
    decide +kernel
  obtain ⟨-, outcome, -, -⟩ := validate_agrees .standard (.counting .nil) "1/-(0)"
  obtain ⟨-, -, client, -⟩ := validate_agrees .standard (.counting .nil) "1/()"
  exact ⟨valid, outcome valid, _, invalid, client _ invalid⟩

end Stepwise
