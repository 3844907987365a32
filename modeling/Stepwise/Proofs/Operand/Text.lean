import Mathlib.Data.Set.Function
import Stepwise.Proofs.Id
import Stepwise.Proofs.Interchange
import Stepwise.Proofs.Numeral.Format
import Stepwise.Proofs.Operand

/-!
# The texts of operands

A text is an operand in one way at most: as a numeral, or as the prefix of references and a
spelling of an identifier. The text of the operand stands for all texts that are read as it
(`Operand.ofText_normalises`). Writing can be undone exactly for the operands that reading gives,
and decompositions have no others (`Operand.ofText_text_iff`).
-/

namespace Stepwise

namespace Operand

theorem afterReferencePrefix?_eq_some_iff {cs rest : List Char} :
    afterReferencePrefix? cs = some rest ↔ cs = referencePrefix ++ rest := by
  constructor
  · intro h
    rw [afterReferencePrefix?] at h
    split at h
    next starts =>
      obtain ⟨more, rfl⟩ := List.isPrefixOf_iff_prefix.1 starts
      rw [List.drop_left] at h
      rw [Option.some.inj h]
    next => cases h
  · rintro rfl
    exact afterReferencePrefix?_append rest

@[simp] theorem toList_marked (rest : String) :
    ("ref:" ++ rest).toList = referencePrefix ++ rest.toList := by
  rw [String.toList_append]
  rfl

/-- A text is read as a literal exactly if it is a numeral, and then as the literal of itself. -/
theorem ofText_eq_literal_iff {text numeral : String} :
    ofText text = .ok (.literal numeral) ↔ numeral = text ∧ text.toList ∈ Numeral.numerals := by
  rw [← Numeral.isNumeral_iff_mem]
  constructor
  · intro h
    unfold ofText at h
    split at h
    next => cases h
    split at h
    next =>
      split at h
      next => cases h
      next => cases h
    next =>
      split at h
      next isNumeral =>
        cases h
        exact ⟨rfl, isNumeral⟩
      next => cases h
  · rintro ⟨rfl, isNumeral⟩
    exact @ofText_text (.literal numeral) isNumeral

/-- A text is read as a reference exactly if it is the prefix of references and a spelling of the
identifier. -/
theorem ofText_eq_reference_iff {text : String} {id : Id} :
    ofText text = .ok (.reference id) ↔
      ∃ spelling : String, text = "ref:" ++ spelling ∧ id.Spells spelling.toList := by
  simp only [← Id.ofChars?_eq_some_iff]
  constructor
  · intro h
    unfold ofText at h
    split at h
    next => cases h
    split at h
    next rest starts =>
      split at h
      next found =>
        cases h
        refine ⟨String.ofList rest, String.toList_injective ?_, by rwa [String.toList_ofList]⟩
        rw [toList_marked, String.toList_ofList]
        exact afterReferencePrefix?_eq_some_iff.1 starts
      next => cases h
    next =>
      split at h
      next => cases h
      next => cases h
  · rintro ⟨spelling, rfl, found⟩
    have filled : ("ref:" ++ spelling).isEmpty = false := by
      rw [String.isEmpty_eq_false_iff, ne_eq, ← String.toList_eq_nil_iff, toList_marked]
      exact nofun
    simp only [ofText, filled, toList_marked, afterReferencePrefix?_append, found]
    rfl

/-- What a text is read as, and what becomes of the text of the operand. -/
structure Normalises (text : String) : Prop where
  /-- Literals are the numerals, kept as they are written. -/
  literal : ∀ numeral, ofText text = .ok (.literal numeral) ↔
    numeral = text ∧ text.toList ∈ Numeral.numerals
  /-- References are the spellings of identifiers after the prefix. -/
  reference : ∀ id, ofText text = .ok (.reference id) ↔
    ∃ spelling : String, text = "ref:" ++ spelling ∧ id.Spells spelling.toList
  /-- With the prefix a text is no literal. -/
  marked : ∀ rest, text = "ref:" ++ rest → ∀ numeral, ofText text ≠ .ok (.literal numeral)
  /-- Without the prefix a text is no reference. -/
  unmarked : (∀ rest, text ≠ "ref:" ++ rest) → ∀ id, ofText text ≠ .ok (.reference id)
  /-- The text of the operand is read as the operand. -/
  again : ∀ operand, ofText text = .ok operand → ofText operand.text = .ok operand
  /-- The text of the operand is written as itself again. -/
  fixed : ∀ operand, ofText text = .ok operand →
    (ofText operand.text).map Operand.text = .ok operand.text
  /-- The text of the operand stands for all texts that are read as it. -/
  same : ∀ operand otherText other, ofText text = .ok operand → ofText otherText = .ok other →
    (operand = other ↔ operand.text = other.text)

/-- Reading leads back from the text of an operand that was read. -/
theorem ofText_text_of_ofText {text : String} {operand : Operand}
    (read : ofText text = .ok operand) : ofText operand.text = .ok operand :=
  ofText_text (isWellSpelt_of_ofText read)

/-- A text is read as a literal exactly if it is a numeral, and as a reference exactly if it is the
prefix of references and a spelling of an identifier, so that the prefix alone tells which of both
it can be. The text of the operand is read as the same operand and written as itself again, and two
texts are read as one operand exactly if they have this text in common. -/
theorem ofText_normalises (text : String) : Normalises text where
  literal _ := ofText_eq_literal_iff
  reference _ := ofText_eq_reference_iff
  marked := by
    rintro rest rfl numeral read
    have plain := isWellSpelt_of_ofText read
    obtain ⟨rfl, -⟩ := ofText_eq_literal_iff.1 read
    have none := afterReferencePrefix?_of_isNumeral plain
    rw [toList_marked, afterReferencePrefix?_append] at none
    cases none
  unmarked := by
    intro unmarked id read
    obtain ⟨spelling, marked, -⟩ := ofText_eq_reference_iff.1 read
    exact unmarked spelling marked
  again _ := ofText_text_of_ofText
  fixed operand read := by
    rw [ofText_text_of_ofText read]
    rfl
  same operand otherText other read otherRead := by
    constructor
    · exact congrArg Operand.text
    · intro sameText
      have same := ofText_text_of_ofText otherRead
      rw [← sameText, ofText_text_of_ofText read] at same
      exact Except.ok.inj same

/-- Two spellings of one identifier, and a numeral that could be the digits of another one. -/
theorem ofText_normalises_spellings :
    let bare := "ref:0000000000000000000000000000000A"
    let braced := "ref:\x7b00000000-0000-0000-0000-00000000000a\x7d"
    let digits := "00000000000000000000000000000010"
    (∃ operand other, ofText bare = .ok operand ∧ ofText braced = .ok other ∧
      (operand = other ↔ operand.text = other.text) ∧ ofText operand.text = .ok operand) ∧
    (∀ numeral, ofText bare ≠ .ok (.literal numeral)) ∧
    ofText digits = .ok (.literal digits) ∧ (∀ id, ofText digits ≠ .ok (.reference id)) := by
  intro bare braced digits
  have readBare : ofText bare = .ok (.reference ⟨10⟩) := by decide +kernel
  have readBraced : ofText braced = .ok (.reference ⟨10⟩) := by decide +kernel
  have unmarked (rest : String) : digits ≠ "ref:" ++ rest := by
    intro marked
    have first : digits.toList.head? = some '0' := by decide
    rw [marked, toList_marked] at first
    simp [referencePrefix] at first
  have ofBare := ofText_normalises bare
  have ofDigits := ofText_normalises digits
  exact ⟨⟨_, _, readBare, readBraced, ofBare.same _ braced _ readBare readBraced,
      ofBare.again _ readBare⟩,
    ofBare.marked "0000000000000000000000000000000A" (by decide), by decide +kernel,
    ofDigits.unmarked unmarked⟩

/-- An operand is what its text is read as exactly if it is well spelt: a reference, or a literal
that is a numeral. Such operands have different texts, and decompositions have no others. -/
theorem ofText_text_iff :
    (∀ operand : Operand, ofText operand.text = .ok operand ↔ operand.isWellSpelt = true) ∧
    Set.InjOn text {operand | operand.isWellSpelt = true} ∧
    (∀ limit supply source decomposition, decompose limit supply source = .ok decomposition →
      (∀ operation ∈ decomposition.operations,
        operation.left.isWellSpelt = true ∧ operation.right.isWellSpelt = true) ∧
      decomposition.result.isWellSpelt = true) := by
  refine ⟨fun operand => ⟨isWellSpelt_of_ofText, ofText_text⟩, ?_, ?_⟩
  · intro operand spelt other otherSpelt sameText
    have read := ofText_text spelt
    rw [sameText, ofText_text otherSpelt] at read
    exact (Except.ok.inj read).symm
  · intro limit supply source decomposition decomposed
    obtain ⟨operations, result⟩ :=
      Decomposition.isWellSpelt_iff.1 (Decomposition.isWellSpelt_of_decompose decomposed)
    exact ⟨fun operation mem => Bool.and_eq_true_iff.1 (operations operation mem), result⟩

/-- A literal that has the text of a reference, two numerals of one number, and a decomposition with
literals and references. -/
theorem ofText_text_iff_quotient :
    let disguised : Operand := .literal "ref:00000000-0000-0000-0000-00000000000a"
    ofText disguised.text ≠ .ok disguised ∧
    text (.literal "0.5") ≠ text (.literal "0.50") ∧
    ∃ decomposition, decompose .standard (.counting ⟨10⟩) "-7/-(1+0.50)" = .ok decomposition ∧
      (∀ operation ∈ decomposition.operations,
        operation.left.isWellSpelt = true ∧ operation.right.isWellSpelt = true) ∧
      decomposition.result.isWellSpelt = true := by
  intro disguised
  obtain ⟨readBack, differ, written⟩ := ofText_text_iff
  have notSpelt : disguised.isWellSpelt ≠ true := by decide
  have spelt : (Operand.literal "0.5").isWellSpelt = true := by decide
  have otherSpelt : (Operand.literal "0.50").isWellSpelt = true := by decide
  have decomposed : decompose .standard (.counting ⟨10⟩) "-7/-(1+0.50)" =
      .ok ⟨[.new ⟨10⟩ .addition (.literal "1") (.literal "0.50"),
        .new ⟨11⟩ .subtraction (.literal "0") (.reference ⟨10⟩),
        .new ⟨12⟩ .division (.literal "-7") (.reference ⟨11⟩)], .reference ⟨12⟩⟩ := by
    decide +kernel
  refine ⟨fun read => notSpelt ((readBack disguised).1 read), fun sameText => ?_, _, decomposed,
    written _ _ _ _ decomposed⟩
  exact absurd (Operand.literal.inj (differ spelt otherSpelt sameText)) (by decide)

end Operand

end Stepwise
