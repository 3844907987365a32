import Stepwise.Client
import Stepwise.Proofs.Lowering.StepTree
import Stepwise.Proofs.Outcome

/-!
# How a decomposition comes about

A text that is decomposed is read and then taken apart, and a text that is refused fails in one of
the two. Reading reports a blank text or the syntax, and taking apart reports neither a blank text
nor an unbalanced group.
-/

namespace Stepwise

variable {limit : Limit} {supply : Supply}

theorem lower_of_decompose {text : String} {decomposition : Decomposition}
    (h : decompose limit supply text = .ok decomposition) :
    ∃ e, Expr.read text = .ok e ∧ e.lower limit supply = .ok decomposition := by
  unfold decompose at h
  split at h
  next e read =>
    split at h
    next lowered => cases h; exact ⟨e, read, lowered⟩
    next => cases h
  next => cases h

/-- A text that is decomposed comes to the decomposition of the tree of steps of its expression. -/
theorem stepTree_of_decompose {text : String} {decomposition : Decomposition}
    (h : decompose limit supply text = .ok decomposition) :
    ∃ tree : StepTree, decomposition = tree.decomposition supply := by
  obtain ⟨e, -, lowered⟩ := lower_of_decompose h
  obtain ⟨tree, -, eq, -⟩ := Expr.stepTree_of_lower lowered
  exact ⟨tree, eq⟩

theorem fault_of_decompose {text : String} {error : ExpressionError}
    (h : decompose limit supply text = .error error) :
    Expr.read text = .error error ∨
      ∃ e fault, Expr.read text = .ok e ∧ e.lower limit supply = .error fault ∧
        fault.toError = error := by
  unfold decompose at h
  split at h
  next e read =>
    split at h
    next => cases h
    next fault failed => cases h; exact .inr ⟨e, fault, read, failed, rfl⟩
  next read => cases h; exact .inl read

/-- The faults of the tree are reported as errors of the text. -/
theorem decompose_of_read {text : String} {e : Expr} (read : Expr.read text = .ok e) :
    decompose limit supply text = (e.lower limit supply).mapError LoweringFault.toError := by
  unfold decompose
  rw [read]
  dsimp only
  cases e.lower limit supply <;> rfl

/-- A text that cannot be read is refused for what reading reports. -/
theorem decompose_of_unread {text : String} {error : ExpressionError}
    (unread : Expr.read text = .error error) :
    decompose limit supply text = .error error := by
  unfold decompose
  rw [unread]

/-- Reading fails for a blank text or for the syntax. -/
theorem Expr.eq_empty_or_isSyntaxError_of_read {text : String} {error : ExpressionError}
    (h : read text = .error error) : error = .empty ∨ error.isSyntaxError = true := by
  unfold read at h
  split at h
  · cases h; exact .inl rfl
  · split at h
    next => cases h
    next fault _ => cases h; exact .inr fault.isSyntaxError_toError

theorem LoweringFault.toError_eq_divisionByZero {fault : LoweringFault}
    (h : fault.toError = .divisionByZero) : fault = .zeroDivisor := by
  cases fault <;> first | rfl | cases h

end Stepwise
