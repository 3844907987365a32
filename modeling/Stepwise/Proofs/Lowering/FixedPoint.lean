import Stepwise.Proofs.Execution
import Stepwise.Proofs.Expr.Text
import Stepwise.Proofs.Lowering.Expansion
import Stepwise.Proofs.Lowering.Literals
import Stepwise.Proofs.Lowering.Uniform

/-!
# Putting together and taking apart again

The tree that a decomposition expands to is taken apart into the same operations, also after it was
written down and read again (`decompose_text_of_expansion`). It is a normal form, which is taken
apart as the expression was. Written down, its literals lose their signs to operators and its
operations get groups around them, but the walk folds the signs back into the same texts, because
no zero has a sign.
-/

namespace Stepwise

variable {limit : Limit} {supply : Supply}

/-- The normal form is taken apart as the tree is. -/
theorem Lowers.normal {e : Expr} {tally next : Tally} {operand : Operand}
    (h : Lowers limit supply e tally operand next) :
    Lowers limit supply e.normal tally operand next := by
  induction h with
  | literal numeral => exact .literal numeral
  | paren _ ih => exact ih
  | @fold inner tally next text lowers ih =>
    have folded := (lowers.eq_literal_iff text).1 rfl
    have numeral : Numeral.isNumeral text = true := lowers.isWellSpelt
    rw [folded] at ih
    cases ih
    rw [Expr.normal, if_pos rfl, folded]
    exact .literal (Numeral.isNumeral_negate numeral)
  | @negate inner tally next id lowers ih =>
    have notLiteral (text : String) : inner.normal ≠ .literal text := fun eq => by
      cases (lowers.eq_literal_iff text).2 eq
    have subtracted : (Expr.unary '-' inner).normal =
        .binary '-' (.literal "0") inner.normal := by
      rw [Expr.normal, if_pos rfl]
      cases form : inner.normal with
      | literal text => exact absurd form (notLiteral text)
      | paren | unary | binary => rfl
    rw [subtracted]
    exact .step rfl (by simp) (.literal (by decide)) ih
  | step known nonzero _ _ ihl ihr => exact .step known nonzero ihl ihr

namespace Expr

theorem lower_normal {e : Expr} {decomposition : Decomposition}
    (h : e.lower limit supply = .ok decomposition) :
    e.normal.lower limit supply = .ok decomposition := by
  rw [lower_eq_bind] at h ⊢
  obtain ⟨⟨operand, tally⟩, found, finished⟩ := exists_of_bind_eq_ok h
  rw [(lowers_of_plainValue found).normal.plainValue_eq]
  exact finished

/-- A literal is taken apart as it is read, where zero has no sign. -/
theorem plainValue_ofNumeral {text : String} (canonical : Numeral.IsCanonical text)
    (tally : Tally) :
    (ofNumeral text).plainValue limit supply tally =
      (literal text).plainValue limit supply tally := by
  have twice := Numeral.negate_negate canonical
  rcases canonical with plain | ⟨magnitude, signed, plain, -⟩
  · rw [ofNumeral_of_isMagnitude plain]
  · have folded : Numeral.negate (String.ofList magnitude) = text := by
      rwa [← Numeral.negate_of_signed signed]
    have numeral : Numeral.isNumeral text = true :=
      Numeral.isNumeral_iff.2 (.inr ⟨magnitude, signed, plain⟩)
    have unsigned : Numeral.isNumeral (String.ofList magnitude) = true :=
      Numeral.isNumeral_iff.2 (.inl (by rwa [String.toList_ofList]))
    rw [ofNumeral_of_signed signed, plainValue, plainValue, plainValue, if_pos unsigned,
      if_pos numeral]
    simp [Except.bind, Tally.sign, folded]

/-- Groups make no difference, nor do signs that become operators. -/
theorem plainValue_grouped {e : Expr} (canonical : ∀ text ∈ e.literals, Numeral.IsCanonical text)
    (tally : Tally) :
    e.grouped.plainValue limit supply tally = e.plainValue limit supply tally := by
  induction e generalizing tally with
  | literal text => exact plainValue_ofNumeral (canonical text List.mem_cons_self) tally
  | paren inner ih => exact ih canonical tally
  | unary op operand ih =>
    rw [grouped, plainValue, plainValue, plainValue, ih canonical]
  | binary op left right ihl ihr =>
    obtain ⟨first, second⟩ := forall_literals_binary.1 canonical
    simp only [grouped, plainValue, ihl first, ihr second]

theorem lower_grouped {e : Expr} (canonical : ∀ text ∈ e.literals, Numeral.IsCanonical text) :
    e.grouped.lower limit supply = e.lower limit supply := by
  rw [lower_eq_bind, lower_eq_bind, plainValue_grouped canonical]

end Expr

/-- A tree whose text can be read, and in whose literals zero has no sign, is taken apart in the
same way after it was written down. -/
theorem decompose_text {e : Expr} (readable : e.isReadable = true)
    (canonical : ∀ text ∈ e.literals, Numeral.IsCanonical text) :
    decompose limit supply e.text = (e.lower limit supply).mapError LoweringFault.toError := by
  rw [decompose_of_read (Expr.read_text readable), Expr.lower_grouped canonical]

theorem Arithmetic.isOperatorChar_symbol (kind : Arithmetic) :
    Lexeme.isOperatorChar kind.symbol = true := by
  cases kind <;> rfl

/-- The literals of a tree that is well spelt have no sign at all. -/
theorem Expr.isCanonical_literals {e : Expr} (spelt : e.isWellSpelt = true) :
    ∀ text ∈ e.literals, Numeral.IsCanonical text := by
  induction e with
  | literal text => simpa [literals] using .inl spelt
  | paren inner ih => exact ih spelt
  | unary op operand ih => exact ih (isWellSpelt_unary spelt).2
  | binary op left right ihl ihr =>
    obtain ⟨-, speltLeft, speltRight⟩ := isWellSpelt_binary spelt
    exact forall_literals_binary.2 ⟨ihl speltLeft, ihr speltRight⟩

/-- A tree of steps over numerals can be written down and read. -/
theorem StepTree.isReadable_toExpr {tree : StepTree}
    (numerals : ∀ text ∈ tree.toExpr.literals, Numeral.isNumeral text = true) :
    tree.toExpr.isReadable = true := by
  induction tree with
  | literal text => exact numerals text List.mem_cons_self
  | step kind left right ihl ihr =>
    obtain ⟨first, second⟩ := Expr.forall_literals_binary.1 numerals
    simp [toExpr, Expr.isReadable, kind.isOperatorChar_symbol, ihl first, ihr second]

/-- The operand with another identifier. -/
def Operand.rename (there : Id → Id) : Operand → Operand
  | literal text => literal text
  | reference id => reference (there id)

/-- The operation with other identifiers. -/
def Operation.rename (there : Id → Id) (operation : Operation) : Operation :=
  { operation with
    id := there operation.id
    left := operation.left.rename there
    right := operation.right.rename there }

/-- The decomposition with other identifiers. -/
def Decomposition.rename (there : Id → Id) (decomposition : Decomposition) : Decomposition :=
  ⟨decomposition.operations.map (Operation.rename there), decomposition.result.rename there⟩

/-- Identifiers that are distinct can be renamed to any others, place by place. -/
theorem Supply.exists_rename {count : Nat} (distinct : supply.IsDistinct count) (other : Supply) :
    ∃ there : Id → Id, ∀ i < count, there (supply i) = other i := by
  refine ⟨fun id => other ((supply.draws 0 count).idxOf id), fun i less => ?_⟩
  have inside : i < (supply.draws 0 count).length := by simpa [draws] using less
  have found : (supply.draws 0 count)[i] = supply i := by simp [draws]
  have place := distinct.idxOf_getElem i inside
  rw [found] at place
  exact congrArg other place

namespace StepTree

/-- The operation at an index has the identifier that was drawn at this index. -/
theorem id_of_getElem? {tree : StepTree} {place i : Nat} {operation : Operation}
    (found : (tree.operations supply place)[i]? = some operation) :
    i < tree.size ∧ operation.id = supply (place + i) := by
  have inside : i < tree.size := by
    rw [← tree.length_operations place]
    exact (List.getElem?_eq_some_iff.1 found).1
  have drawn : ((tree.operations supply place).map Operation.id)[i]? =
      some (supply (place + i)) := by
    rw [map_id_operations, Supply.draws, List.getElem?_map, List.getElem?_range' inside]
    simp
  rw [List.getElem?_map, found] at drawn
  exact ⟨inside, Option.some.inj drawn⟩

variable {other : Supply} {there : Id → Id}

theorem rename_operand {tree : StepTree} {place : Nat}
    (renames : ∀ i < place + tree.size, there (supply i) = other i) :
    (tree.operand supply place).rename there = tree.operand other place := by
  cases tree with
  | literal text => rfl
  | step kind left right =>
    have root := renames (place + left.size + right.size) (by rw [size]; omega)
    simp only [operand, Operand.rename, root]

theorem rename_operations {tree : StepTree} {place : Nat}
    (renames : ∀ i < place + tree.size, there (supply i) = other i) :
    (tree.operations supply place).map (Operation.rename there) = tree.operations other place := by
  induction tree generalizing place with
  | literal text => rfl
  | step kind left right ihl ihr =>
    have root := renames (place + left.size + right.size) (by rw [size]; omega)
    have before : ∀ i < place + left.size, there (supply i) = other i := fun i less =>
      renames i (by rw [size]; omega)
    have after : ∀ i < place + left.size + right.size, there (supply i) = other i := fun i less =>
      renames i (by rw [size]; omega)
    simp only [operations, List.map_append, ihl before, ihr after, List.map_singleton,
      Operation.rename, Operation.new, rename_operand before, rename_operand after, root]

theorem rename_decomposition {tree : StepTree}
    (renames : ∀ i < tree.size, there (supply i) = other i) :
    (tree.decomposition supply).rename there = tree.decomposition other := by
  have renames : ∀ i < 0 + tree.size, there (supply i) = other i := by simpa using renames
  simp only [Decomposition.rename, decomposition, rename_operations renames,
    rename_operand renames]

end StepTree

/-- A text that is decomposed expands to one tree. The text of this tree is decomposed within the
same limit, and into the same operations and result, but for the names: the identifier of each
operation becomes the one that was drawn in its place. -/
theorem decompose_text_of_expansion {text : String} {decomposition : Decomposition}
    (h : decompose limit supply text = .ok decomposition)
    (distinct : supply.IsDistinct decomposition.operations.length) (other : Supply) :
    ∃ tree : Expr,
      (∀ expansion, decomposition.result.Expands decomposition.operations expansion ↔
        expansion = tree) ∧
      ∃ there : Id → Id, decompose limit other tree.text = .ok (decomposition.rename there) ∧
        ∀ i operation, decomposition.operations[i]? = some operation →
          there operation.id = other i := by
  obtain ⟨e, read, lowered⟩ := lower_of_decompose h
  have spelt := (Expr.derives_of_read read).isWellSpelt
  rcases Expr.lower_uniform limit spelt with ⟨fault, failed⟩ | ⟨tree, normal, uniform⟩
  · rw [failed] at lowered
    cases lowered
  obtain rfl : tree.decomposition supply = decomposition :=
    Except.ok.inj ((uniform supply).symm.trans lowered)
  rw [tree.length_decomposition] at distinct
  obtain ⟨there, renames⟩ := Supply.exists_rename distinct other
  refine ⟨tree.toExpr, fun expansion => tree.expands_result_iff distinct, there, ?_, ?_⟩
  · have canonical : ∀ text ∈ tree.toExpr.literals, Numeral.IsCanonical text := by
      rw [← normal]
      exact Expr.forall_literals_normal (P := Numeral.IsCanonical)
        (fun _ => Numeral.isCanonical_negate) (.inl (by decide)) (Expr.isCanonical_literals spelt)
    have readable := tree.isReadable_toExpr fun text mem =>
      Numeral.isNumeral_of_isCanonical (canonical text mem)
    have again : tree.toExpr.lower limit other = .ok (tree.decomposition other) := by
      rw [← normal]
      exact Expr.lower_normal (uniform other)
    rw [decompose_text readable canonical, again, StepTree.rename_decomposition renames]
    rfl
  · intro i operation found
    obtain ⟨inside, id⟩ := StepTree.id_of_getElem? found
    rw [id, Nat.zero_add, renames i inside]

/-- A quotient of a negated sum and a negative numeral, taken apart under other identifiers. -/
theorem decompose_text_of_expansion_signs :
    let decomposition : Decomposition :=
      ⟨[.new ⟨1⟩ .addition (.literal "1") (.literal "2"),
        .new ⟨2⟩ .subtraction (.literal "0") (.reference ⟨1⟩),
        .new ⟨3⟩ .division (.reference ⟨2⟩) (.literal "-0.50")], .reference ⟨3⟩⟩
    decompose .standard (.counting ⟨1⟩) "-(1+2)/-0.50" = .ok decomposition ∧
      (Supply.counting ⟨1⟩).IsDistinct decomposition.operations.length ∧
      ∃ tree : Expr,
        (∀ expansion, decomposition.result.Expands decomposition.operations expansion ↔
          expansion = tree) ∧
        ∃ there : Id → Id,
          decompose .standard (.counting ⟨7⟩) tree.text = .ok (decomposition.rename there) ∧
          ∀ i operation, decomposition.operations[i]? = some operation →
            there operation.id = Supply.counting ⟨7⟩ i := by
  intro decomposition
  have decomposed : decompose .standard (.counting ⟨1⟩) "-(1+2)/-0.50" = .ok decomposition := by
    decide +kernel
  have distinct : (Supply.counting ⟨1⟩).IsDistinct 3 := by decide +kernel
  exact ⟨decomposed, distinct, decompose_text_of_expansion decomposed distinct (.counting ⟨7⟩)⟩

end Stepwise
