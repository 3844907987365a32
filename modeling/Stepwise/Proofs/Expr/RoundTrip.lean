import Stepwise.Proofs.Lowering.FixedPoint

/-!
# Writing a tree down loses only its parentheses

A tree may have any shape: its text does not follow precedence but puts parentheses around each
operation, and leaves out those that the tree has. What is read from the text is the tree with the
one kind of parentheses in place of the other (`Expr.read_text_of_isWellSpelt`), so nothing that
comes of a tree can tell the two apart: the text is the same, and so is what it is taken apart into.
-/

namespace Stepwise

namespace Expr

/-- The tree without its parentheses. -/
def ungrouped : Expr → Expr
  | literal text => literal text
  | paren inner => inner.ungrouped
  | unary op operand => unary op operand.ungrouped
  | binary op left right => binary op left.ungrouped right.ungrouped

/-- A literal without a sign is read as it stands. -/
theorem grouped_literal {text : String} (spelt : (literal text).isWellSpelt = true) :
    (literal text).grouped = literal text :=
  ofNumeral_of_isMagnitude spelt

theorem isReadable_of_isWellSpelt {e : Expr} (spelt : e.isWellSpelt = true) :
    e.isReadable = true := by
  induction e with
  | literal text => exact Numeral.isNumeral_iff.2 (.inl spelt)
  | paren inner ih => exact ih spelt
  | unary op operand ih =>
    rw [isWellSpelt, Bool.and_eq_true] at spelt
    rw [isReadable, spelt.1, ih spelt.2, Bool.and_self]
  | binary op left right ihl ihr =>
    obtain ⟨known, speltLeft, speltRight⟩ := isWellSpelt_binary spelt
    rw [isReadable, known, ihl speltLeft, ihr speltRight, Bool.and_self, Bool.and_self]

/-- Groups around operations are parentheses and nothing else. -/
theorem ungrouped_grouped {e : Expr} (spelt : e.isWellSpelt = true) :
    e.grouped.ungrouped = e.ungrouped := by
  induction e with
  | literal text => rw [grouped_literal spelt]
  | paren inner ih => exact ih spelt
  | unary op operand ih =>
    rw [grouped, ungrouped, ungrouped, ungrouped, ih (isWellSpelt_unary spelt).2]
  | binary op left right ihl ihr =>
    obtain ⟨-, speltLeft, speltRight⟩ := isWellSpelt_binary spelt
    rw [grouped, ungrouped, ungrouped, ungrouped, ihl speltLeft, ihr speltRight]

/-- Groups around operations do not show in the text, which has its own. -/
theorem chars_grouped {e : Expr} (spelt : e.isWellSpelt = true) : e.grouped.chars = e.chars := by
  induction e with
  | literal text => rw [grouped_literal spelt]
  | paren inner ih => exact ih spelt
  | unary op operand ih => simp [grouped, ih (isWellSpelt_unary spelt).2]
  | binary op left right ihl ihr =>
    obtain ⟨-, speltLeft, speltRight⟩ := isWellSpelt_binary spelt
    simp [grouped, ihl speltLeft, ihr speltRight]

/-- The text of a tree is read as a tree that differs from it in parentheses alone. That tree has
the same text, and under each limit and with each supply it is taken apart into the same operations
or refused for the same fault. -/
theorem read_text_of_isWellSpelt {e : Expr} (spelt : e.isWellSpelt = true) :
    ∃ again, read e.text = .ok again ∧ again.ungrouped = e.ungrouped ∧ again.text = e.text ∧
      ∀ limit supply, again.lower limit supply = e.lower limit supply := by
  have sameText : e.grouped.text = e.text := by rw [text, chars_grouped spelt, text]
  have sameOutcome : ∀ limit supply, e.grouped.lower limit supply = e.lower limit supply :=
    fun _ _ => lower_grouped (isCanonical_literals spelt)
  exact ⟨e.grouped, read_text (isReadable_of_isWellSpelt spelt), ungrouped_grouped spelt, sameText,
    sameOutcome⟩

/-- A product of a sum and of a numeral with two signs, where the tree has parentheses around the
numeral and none around the sum. -/
theorem read_text_of_isWellSpelt_product :
    let e : Expr := .binary '*' (.binary '+' (.literal "1") (.literal "2"))
      (.unary '-' (.unary '+' (.paren (.literal "0.50"))))
    e.isWellSpelt = true ∧ e.text = "((1 + 2) * (-(+0.50)))" ∧
      ∃ again, read e.text = .ok again ∧ again.ungrouped = e.ungrouped ∧ again.text = e.text ∧
        ∀ limit supply, again.lower limit supply = e.lower limit supply := by
  intro e
  have spelt : e.isWellSpelt = true := by decide +kernel
  exact ⟨spelt, by decide +kernel, read_text_of_isWellSpelt spelt⟩

end Expr

end Stepwise
