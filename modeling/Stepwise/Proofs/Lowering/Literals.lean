import Stepwise.Proofs.Decomposer

/-!
# Where the literals of a decomposition come from

Each literal of a decomposition is a literal of the normal form, and each literal of the normal
form comes from one of the expression by negations, or is the `0` from which a tree is subtracted.
So what holds of the literals of an expression, of `0`, and of the negation of whatever it holds
of, holds of every literal of its decomposition (`Expr.allLiterals_of_lower`).
-/

namespace Stepwise

namespace Expr

/-- The texts of the literals, from left to right. -/
def literals : Expr → List String
  | literal text => [text]
  | paren inner => inner.literals
  | unary _ operand => operand.literals
  | binary _ left right => left.literals ++ right.literals

variable {P : String → Prop}

theorem forall_literals_binary {op : Char} {left right : Expr} :
    (∀ text ∈ (binary op left right).literals, P text) ↔
      (∀ text ∈ left.literals, P text) ∧ ∀ text ∈ right.literals, P text :=
  List.forall_mem_append

theorem forall_literals_negated (negate : ∀ text, P text → P (Numeral.negate text)) (zero : P "0")
    {e : Expr} (all : ∀ text ∈ e.literals, P text) : ∀ text ∈ e.negated.literals, P text := by
  cases e with
  | literal text => simpa [negated, literals] using negate text (all text List.mem_cons_self)
  | paren | unary | binary =>
    simp only [negated, literals, List.mem_append, List.mem_singleton]
    rintro text (rfl | mem)
    · exact zero
    · exact all text (by simpa [literals] using mem)

theorem forall_literals_normal (negate : ∀ text, P text → P (Numeral.negate text)) (zero : P "0")
    {e : Expr} (all : ∀ text ∈ e.literals, P text) : ∀ text ∈ e.normal.literals, P text := by
  induction e with
  | literal text => exact all
  | paren inner ih => exact ih all
  | unary op operand ih =>
    rw [normal]
    split
    · exact forall_literals_negated negate zero (ih all)
    · exact ih all
  | binary op left right ihl ihr =>
    obtain ⟨first, second⟩ := forall_literals_binary.1 all
    exact forall_literals_binary.2 ⟨ihl first, ihr second⟩

end Expr

namespace StepTree

variable {supply : Supply}

theorem mem_literals_of_operand {tree : StepTree} {place : Nat} {text : String}
    (h : tree.operand supply place = .literal text) : text ∈ tree.toExpr.literals := by
  cases tree with
  | literal => cases h; exact List.mem_singleton_self _
  | step => cases h

theorem mem_literals_of_operations {tree : StepTree} {place : Nat} {operation : Operation}
    (mem : operation ∈ tree.operations supply place) {text : String}
    (h : operation.left = .literal text ∨ operation.right = .literal text) :
    text ∈ tree.toExpr.literals := by
  induction tree generalizing place with
  | literal => cases mem
  | step kind left right ihl ihr =>
    simp only [operations, List.mem_append, List.mem_singleton] at mem
    rw [toExpr, Expr.literals, List.mem_append]
    rcases mem with (mem | mem) | rfl
    · exact .inl (ihl mem)
    · exact .inr (ihr mem)
    · rcases h with first | second
      · exact .inl (mem_literals_of_operand first)
      · exact .inr (mem_literals_of_operand second)

end StepTree

/-- The literals of a tree whose value is found are numerals. -/
theorem Lowers.isNumeral_literals {limit : Limit} {supply : Supply} {e : Expr}
    {tally next : Tally} {operand : Operand} (h : Lowers limit supply e tally operand next) :
    ∀ text ∈ e.literals, Numeral.isNumeral text = true := by
  induction h with
  | literal numeral => simpa [Expr.literals] using numeral
  | paren _ ih | fold _ ih | negate _ ih => exact ih
  | step _ _ _ _ ihl ihr => exact Expr.forall_literals_binary.2 ⟨ihl, ihr⟩

/-- The property holds of every literal, both of the operations and of the result. -/
structure Decomposition.AllLiterals (P : String → Prop) (decomposition : Decomposition) : Prop where
  operands : ∀ operation ∈ decomposition.operations, ∀ text,
    operation.left = .literal text ∨ operation.right = .literal text → P text
  result : ∀ text, decomposition.result = .literal text → P text

theorem StepTree.allLiterals_decomposition {P : String → Prop} {supply : Supply} {tree : StepTree}
    (all : ∀ text ∈ tree.toExpr.literals, P text) : (tree.decomposition supply).AllLiterals P where
  operands _ mem text h := all text (mem_literals_of_operations mem h)
  result text h := all text (mem_literals_of_operand h)

/-- What holds of the literals of an expression and of `0`, and stays true when a text is negated,
holds of all literals of the decomposition. -/
theorem Expr.allLiterals_of_lower {P : String → Prop} {limit : Limit} {supply : Supply} {e : Expr}
    {decomposition : Decomposition} (h : e.lower limit supply = .ok decomposition)
    (negate : ∀ text, P text → P (Numeral.negate text)) (zero : P "0")
    (all : ∀ text ∈ e.literals, P text) : decomposition.AllLiterals P := by
  obtain ⟨tree, normal, rfl, -⟩ := stepTree_of_lower h
  apply StepTree.allLiterals_decomposition
  rw [← normal]
  exact forall_literals_normal negate zero all

end Stepwise
