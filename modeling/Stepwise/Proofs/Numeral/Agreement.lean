import Stepwise.Proofs.Numeral.Format
import Stepwise.Proofs.Token.Cover

/-!
# Numerals are the numbers of a scan

A numeral is recognised in two ways: its text is split at the point and both sides are tested, or a
scan moves over it from character to character. A scan knows no sign within a number, so what it
takes for a single number are the magnitudes (`Token.scan_eq_number_iff`). Main statement: the test
decides the format of numerals, it agrees with the scan on texts without a sign, and negation stays
within what it accepts (`Numeral.isNumeral_agrees`).
-/

namespace Stepwise

/-- All that a scan finds in a text is one number, the text itself, exactly if the text is a
magnitude. -/
theorem Token.scan_eq_number_iff {text : String} {stop : Nat} :
    scan text = .ok ⟨[⟨.number text, 0⟩], stop⟩ ↔
      Numeral.isMagnitude text.toList = true ∧ stop = text.utf8ByteSize := by
  rw [scan_eq_ok_iff]
  constructor
  · intro laid
    exact ⟨laid.isWellSpelt _ List.mem_cons_self, laid.covers.stop_eq⟩
  · rintro ⟨plain, rfl⟩
    have size : text.utf8ByteSize = text.toList.length :=
      Text.utf8ByteSize_of_narrow (Numeral.utf8Size_of_isMagnitude plain)
    have spelt : (Lexeme.number text).isWellSpelt = true := plain
    have alone : startsWithNumber [] ≠ true := by decide
    have laid := LaidOut.token spelt (fun _ next => absurd next alone)
      (.done (0 + text.toList.length))
    simpa [Lexeme.chars, size] using laid

namespace Numeral

/-- Without a sign, a numeral is a magnitude. -/
theorem isNumeral_iff_isMagnitude {text : String} (unsigned : ∀ rest, text ≠ "-" ++ rest) :
    isNumeral text = true ↔ isMagnitude text.toList = true := by
  rw [isNumeral_iff]
  constructor
  · rintro (plain | ⟨magnitude, signed, -⟩)
    · exact plain
    · exact absurd (eq_minus_of_toList signed) (unsigned _)
  · exact .inl

/-- The test for numerals decides their format. A text without a sign passes it exactly if all that
a scan finds in it is one number, the text itself, and the end of the input is then the end of the
text. The opposite of a numeral is a numeral of the opposite number and no zero with a sign, and the
opposite of the opposite is the numeral again, unless this is a zero with a sign. -/
theorem isNumeral_agrees (text : String) :
    (isNumeral text = true ↔ text.toList ∈ numerals) ∧
    ((∀ rest, text ≠ "-" ++ rest) → ∀ stop,
      (isNumeral text = true ∧ stop = text.utf8ByteSize ↔
        Token.scan text = .ok ⟨[⟨.number text, 0⟩], stop⟩)) ∧
    (isNumeral text = true →
      isNumeral (negate text) = true ∧ value (negate text) = -value text ∧
      ¬ IsSignedZero (negate text) ∧
      (negate (negate text) = text ↔ ¬ IsSignedZero text)) := by
  refine ⟨isNumeral_iff_mem, ?_, ?_⟩
  · intro unsigned stop
    rw [isNumeral_iff_isMagnitude unsigned, Token.scan_eq_number_iff]
  · intro numeral
    have canonical := isCanonical_negate_of_isNumeral numeral
    exact ⟨isNumeral_negate numeral, value_negate numeral, (isCanonical_iff.1 canonical).2,
      negate_negate_iff numeral⟩

/-- A number that keeps its zeros, two texts that are none, and a zero that loses its sign. -/
theorem isNumeral_agrees_zeros :
    (∀ rest, "007.50" ≠ "-" ++ rest) ∧
    Token.scan "007.50" = .ok ⟨[⟨.number "007.50", 0⟩], 6⟩ ∧
    "1.2.3".toList ∉ numerals ∧ "\u0663".toList ∉ numerals ∧
    isNumeral "007.50" = true ∧ negate (negate "007.50") = "007.50" ∧
    isNumeral "-0.0" = true ∧ IsSignedZero "-0.0" ∧ isNumeral (negate "-0.0") = true ∧
    value (negate "-0.0") = -value "-0.0" ∧ ¬ IsSignedZero (negate "-0.0") ∧
    negate (negate "-0.0") ≠ "-0.0" := by
  obtain ⟨-, scanned, signs⟩ := isNumeral_agrees "007.50"
  obtain ⟨-, -, signsOfZero⟩ := isNumeral_agrees "-0.0"
  have unsigned : ∀ rest, "007.50" ≠ "-" ++ rest := by
    intro rest signed
    have first : "007.50".toList.head? = some '0' := by decide
    rw [signed, toList_minus] at first
    exact absurd (Option.some.inj first) (by decide)
  have numeral : isNumeral "007.50" = true := by decide
  have zero : isNumeral "-0.0" = true := by decide
  have signedZero : IsSignedZero "-0.0" := ⟨⟨"0.0", by decide⟩, by decide +kernel⟩
  obtain ⟨-, -, -, twice⟩ := signs numeral
  obtain ⟨negated, opposite, noSign, twiceZero⟩ := signsOfZero zero
  have notSignedZero : ¬ IsSignedZero "007.50" := fun h => h.1.elim unsigned
  refine ⟨unsigned, (scanned unsigned 6).1 ⟨numeral, by decide⟩, ?_, ?_, numeral,
    twice.2 notSignedZero, zero, signedZero, negated, opposite, noSign,
    fun again => twiceZero.1 again signedZero⟩
  · rw [← (isNumeral_agrees "1.2.3").1]
    decide
  · rw [← (isNumeral_agrees "\u0663").1]
    decide

end Numeral

end Stepwise
