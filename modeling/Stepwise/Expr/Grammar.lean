import Stepwise.Expr
import Stepwise.ExpressionError
import Stepwise.Numeral
import Stepwise.Token

/-!
# The grammar

Trees that are derivations of the grammar, their yields, and the first token of a text that fits no
expression. Main statement here: a tree that is derived at some level is derived as a sum
(`Derives.toSum`).
-/

namespace Stepwise

/-!
## The grammar as a predicate on trees

`Derives level e` says that `e` is a derivation of the grammar at a level of binding: an operator
of a sum may have any expression on its left, one of a product needs a product or tighter there,
and each right operand is one level tighter than its operator. `Expr.lexemes` is the yield of a
tree. Main statement here: a tree that is derived at some level is derived as a sum.
-/

namespace Lexeme

/-- The operators of sums. -/
def isSumOperator (op : Char) : Bool := op == '+' || op == '-'

/-- The operators of products. -/
def isProductOperator (op : Char) : Bool := op == '*' || op == '/' || op == '%'

theorem isOperatorChar_iff {c : Char} :
    isOperatorChar c = true ↔ isSumOperator c = true ∨ isProductOperator c = true := by
  simp [isOperatorChar, isSumOperator, isProductOperator, or_assoc]

end Lexeme

/-- How tightly an expression binds, loosest first. -/
inductive Level where
  | sum
  | product
  | unary
deriving DecidableEq, Repr

/-- The tree is a derivation at the level. -/
inductive Derives : Level → Expr → Prop where
  | number {text : String} : Numeral.isMagnitude text.toList = true →
      Derives .unary (.literal text)
  | group {inner : Expr} : Derives .sum inner → Derives .unary (.paren inner)
  | sign {op : Char} {operand : Expr} : Lexeme.isSumOperator op = true → Derives .unary operand →
      Derives .unary (.unary op operand)
  | tight {e : Expr} : Derives .unary e → Derives .product e
  | product {op : Char} {left right : Expr} : Lexeme.isProductOperator op = true →
      Derives .product left → Derives .unary right → Derives .product (.binary op left right)
  | loose {e : Expr} : Derives .product e → Derives .sum e
  | sum {op : Char} {left right : Expr} : Lexeme.isSumOperator op = true →
      Derives .sum left → Derives .product right → Derives .sum (.binary op left right)

theorem Derives.toSum {level : Level} {e : Expr} (h : Derives level e) : Derives .sum e :=
  match level, h with
  | .sum, h => h
  | .product, h => .loose h
  | .unary, h => .loose (.tight h)

/-- The lexemes of a tree from left to right. Each group brings its own parentheses. -/
def Expr.lexemes : Expr → List Lexeme
  | .literal text => [.number text]
  | .paren inner => .opening :: inner.lexemes ++ [.closing]
  | .unary op operand => .operator op :: operand.lexemes
  | .binary op left right => left.lexemes ++ .operator op :: right.lexemes

theorem Expr.lexemes_ne_nil (e : Expr) : e.lexemes ≠ [] := by
  cases e <;> simp [lexemes]

/-!
## The first token that does not fit

Tokens are viable if some expression begins with them. In a text that is no expression there is a
first thing, a token or the end of the input, that no expression goes on with: the misfit.
`Token.faultAfter` is the fault that it makes. It depends on the tokens before the misfit, on what
the misfit is, and on where it stands: on whether an operand or an operator was due, on the
parentheses that are open, and on the last token.
-/

/-- The lexeme ends an operand, so that an operator is due after it. -/
def Lexeme.endsOperand : Lexeme → Bool
  | number _ => true
  | operator _ => false
  | opening => false
  | closing => true

namespace Token

/-- The tokens make up an expression. -/
def IsComplete (tokens : List Token) : Prop :=
  ∃ e, Derives .sum e ∧ tokens.map Token.lexeme = e.lexemes

/-- An expression begins with the tokens. -/
def IsViable (tokens : List Token) : Prop :=
  ∃ more, IsComplete (tokens ++ more)

/-- An expression begins with the tokens `before`, but none goes on with the first of the tokens
`rest`, or with the end of the input if there are none. -/
def IsMisfit (before rest : List Token) : Prop :=
  IsViable before ∧
    match rest with
    | [] => ¬IsComplete before
    | token :: _ => ¬IsViable (before ++ [token])

/-- An operand is due: at the start, and after a token that ends no operand. -/
def awaitsOperand (before : List Token) : Bool :=
  before.getLast?.all fun token => !token.lexeme.endsOperand

/-- The operator that lacks its right operand: the last token, if it stands where an operator was
due. -/
def pendingOperator? (before : List Token) : Option (Char × Nat) :=
  match before.getLast? with
  | some ⟨.operator op, offset⟩ =>
    if awaitsOperand before.dropLast then none else some (op, offset)
  | _ => none

/-- The offset of the last token, if that is an opening parenthesis. -/
def lastOpening? (before : List Token) : Option Nat :=
  match before.getLast? with
  | some ⟨.opening, offset⟩ => some offset
  | _ => none

/-- The groups that are open after one more token. -/
def groupsAfter (groups : List Nat) (token : Token) : List Nat :=
  match token.lexeme with
  | .opening => token.offset :: groups
  | .closing => groups.tail
  | _ => groups

/-- The offsets of the opening parentheses that are not closed, the innermost first. -/
def openGroups (before : List Token) : List Nat :=
  before.foldl groupsAfter []

/-- The fault of finding `found` at `position` after the tokens `before`. -/
def faultAfter (before : List Token) (found : Option Lexeme) (position : Nat) : SyntaxFault :=
  if awaitsOperand before then
    match pendingOperator? before, found, lastOpening? before with
    | some (op, offset), _, _ => .missingRightOperand op offset found
    | none, some .closing, some offset => .emptyParens offset
    | none, some .closing, none => .unexpectedClosing position
    | none, _, _ => .operandExpected found position
  else
    match found, openGroups before with
    | some .closing, _ => .unmatchedClosing position
    | none, offset :: _ => .unclosedOpening offset
    | some lexeme, _ :: _ => .closingExpected (some lexeme) position
    | _, [] => .unexpected found position

/-- The offset of the first of the tokens, or of the end of the input if there are none. -/
def offsetOf (stop : Nat) (rest : List Token) : Nat :=
  (rest.head?.map Token.offset).getD stop

end Token

end Stepwise
