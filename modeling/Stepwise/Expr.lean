/-!
# Expression trees

An expression keeps its operators and its parentheses as they were written, and its literals as
text, so that a well-formed expression with an operator that nothing can execute is still a tree.
`Expr.text` writes a tree with every operation in parentheses of its own.
-/

namespace Stepwise

/-- An arithmetic expression as written. -/
inductive Expr where
  | literal (text : String)
  | paren (inner : Expr)
  | unary (op : Char) (operand : Expr)
  | binary (op : Char) (left right : Expr)
deriving DecidableEq, Repr, Inhabited

namespace Expr

/-- The fully parenthesised characters of a tree, followed by `rest`. Parentheses of the source
are not repeated: each operation brings its own. -/
def charsThen : Expr → List Char → List Char
  | literal text, rest => text.toList ++ rest
  | paren inner, rest => charsThen inner rest
  | unary op operand, rest => '(' :: op :: charsThen operand (')' :: rest)
  | binary op left right, rest =>
    '(' :: charsThen left (' ' :: op :: ' ' :: charsThen right (')' :: rest))

/-- The fully parenthesised characters of a tree. -/
def chars (e : Expr) : List Char := e.charsThen []

/-- The fully parenthesised text of a tree. -/
def text (e : Expr) : String := String.ofList e.chars

instance : ToString Expr := ⟨text⟩

@[simp] theorem charsThen_eq (e : Expr) (rest : List Char) :
    e.charsThen rest = e.chars ++ rest := by
  induction e generalizing rest with
  | literal text => simp [chars, charsThen]
  | paren inner ih => simpa [chars, charsThen] using ih rest
  | unary op operand ih =>
    simp only [chars, charsThen]
    rw [ih, ih [')']]
    simp
  | binary op left right ihl ihr =>
    simp only [chars, charsThen]
    rw [ihl, ihl (' ' :: op :: ' ' :: right.charsThen [')']), ihr, ihr [')']]
    simp

@[simp] theorem chars_literal (text : String) : (literal text).chars = text.toList := by
  simp [chars, charsThen]

@[simp] theorem chars_paren (inner : Expr) : (paren inner).chars = inner.chars := rfl

@[simp] theorem chars_unary (op : Char) (operand : Expr) :
    (unary op operand).chars = '(' :: op :: (operand.chars ++ [')']) := by
  rw [chars, charsThen, charsThen_eq]

@[simp] theorem chars_binary (op : Char) (left right : Expr) :
    (binary op left right).chars =
      '(' :: (left.chars ++ ' ' :: op :: ' ' :: (right.chars ++ [')'])) := by
  rw [chars, charsThen, charsThen_eq left, charsThen_eq right]

end Expr

end Stepwise
