import Stepwise.Proofs.Id
import Stepwise.Proofs.Lowering.Recursion

/-!
# Operands read back from their text

A text with the prefix of references is read as a reference, and no numeral has that prefix. So an
operand is what its text is read as, provided that it is well spelt (`Operand.ofText_text`), and
every operand that is read is well spelt.
-/

namespace Stepwise

theorem Numeral.isNumeral_head {text : String} (h : isNumeral text = true) :
    ∃ c rest, text.toList = c :: rest ∧ (c = '-' ∨ c.isDigit = true) := by
  rcases isNumeral_iff.1 h with plain | ⟨magnitude, signed, -⟩
  · obtain ⟨c, rest, eq, digit⟩ := isDigit_head_of_isMagnitude plain
    exact ⟨c, rest, eq, .inr digit⟩
  · exact ⟨'-', magnitude, signed, .inl rfl⟩

namespace Operand

theorem afterReferencePrefix?_append (cs : List Char) :
    afterReferencePrefix? (referencePrefix ++ cs) = some cs := by
  simp [afterReferencePrefix?, referencePrefix]

/-- A numeral does not start like a reference. -/
theorem afterReferencePrefix?_of_isNumeral {text : String} (h : Numeral.isNumeral text = true) :
    afterReferencePrefix? text.toList = none := by
  obtain ⟨c, rest, eq, head⟩ := Numeral.isNumeral_head h
  have other : ¬ 'r' = c := by
    rintro rfl
    exact absurd head (by decide)
  simp [eq, afterReferencePrefix?, referencePrefix, other]

theorem isEmpty_of_isNumeral {text : String} (h : Numeral.isNumeral text = true) :
    text.isEmpty = false := by
  obtain ⟨c, rest, eq, -⟩ := Numeral.isNumeral_head h
  simp [String.isEmpty_eq_false_iff, ← String.toList_eq_nil_iff, eq]

/-- An operand that is well spelt is what its text is read as. -/
theorem ofText_text {operand : Operand} (spelt : operand.isWellSpelt = true) :
    ofText operand.text = .ok operand := by
  cases operand with
  | literal text =>
    have numeral : Numeral.isNumeral text = true := spelt
    simp [ofText, Operand.text, isEmpty_of_isNumeral numeral,
      afterReferencePrefix?_of_isNumeral numeral, numeral]
  | reference id =>
    have filled : (String.ofList (referencePrefix ++ id.chars)).isEmpty = false := by
      simp [String.isEmpty_eq_false_iff, ← String.toList_eq_nil_iff, referencePrefix]
    simp only [ofText, text, filled, String.toList_ofList, afterReferencePrefix?_append,
      Id.ofChars?_chars]
    rfl

/-- What is read is well spelt. -/
theorem isWellSpelt_of_ofText {text : String} {operand : Operand} (h : ofText text = .ok operand) :
    operand.isWellSpelt = true := by
  unfold ofText at h
  split at h
  next => cases h
  next =>
    split at h
    next =>
      split at h
      next => cases h; rfl
      next => cases h
    next =>
      split at h
      next numeral => cases h; exact numeral
      next => cases h

end Operand

end Stepwise
