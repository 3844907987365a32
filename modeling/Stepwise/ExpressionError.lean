import Stepwise.Token

/-!
# Why an expression is rejected

`ExpressionError` is what the library reports about an expression: a class, and for most classes a
message. Three of the classes are syntax errors; `message` is the full wording. Behind the classes
stand the causes: the faults of a text, which are syntax errors all of them
(`SyntaxFault.isSyntaxError_toError`), and the faults of a tree.
-/

namespace Stepwise

/-- The reason why an expression cannot be read or taken apart. -/
inductive ExpressionError where
  /-- Nothing but blank characters. -/
  | empty
  /-- The grammar is not followed. -/
  | invalid (message : String)
  /-- A group is empty or unbalanced. -/
  | invalidParen (message : String)
  /-- A binary operator lacks its right operand. -/
  | invalidBinary (message : String)
  /-- The operator can be read but not executed. -/
  | unsupportedOperator (operator : String)
  /-- A divisor is the literal `0`. -/
  | divisionByZero
  /-- More operations are needed than allowed. -/
  | tooComplex (message : String)
deriving DecidableEq, Repr

namespace ExpressionError

/-- The wording of an error. -/
def message : ExpressionError → String
  | empty => "expression is empty"
  | invalid detail => s!"invalid expression: {detail}"
  | invalidParen detail => s!"invalid parenthesized expression: {detail}"
  | invalidBinary detail => s!"invalid binary operation: {detail}"
  | unsupportedOperator operator => s!"unsupported operator '{operator}'"
  | divisionByZero => "division by zero"
  | tooComplex detail => s!"expression too complex: {detail}"

/-- The three classes that concern the grammar. -/
def isSyntaxError : ExpressionError → Bool
  | invalid _ | invalidParen _ | invalidBinary _ => true
  | _ => false

end ExpressionError

/-!
## Syntax faults

The ways in which a text fails to be an expression, each with the byte offsets and the lexeme that
its report names. `toError` sorts them into the classes of `ExpressionError` and words them.
-/

/-- A fault of a text that is not blank. `found` is `none` at the end of the input. -/
inductive SyntaxFault where
  /-- Digits and a point without a digit after it. -/
  | malformedNumber (position : Nat)
  /-- A character that starts no token. -/
  | unexpectedCharacter (c : Char) (position : Nat)
  /-- After a binary operator, something that starts no operand. -/
  | missingRightOperand (op : Char) (position : Nat) (found : Option Lexeme)
  /-- A closing parenthesis right after its opening one; the position is that of the opening. -/
  | emptyParens (position : Nat)
  /-- A closing parenthesis where an operand has to start. -/
  | unexpectedClosing (position : Nat)
  /-- Anything else where an operand has to start. -/
  | operandExpected (found : Option Lexeme) (position : Nat)
  /-- A closing parenthesis that closes no group. -/
  | unmatchedClosing (position : Nat)
  /-- The input ends within a group that starts at the position. -/
  | unclosedOpening (position : Nat)
  /-- After an operand within a group, a token that cannot continue it. -/
  | closingExpected (found : Option Lexeme) (position : Nat)
  /-- After an operand outside all groups, a token that cannot continue it. -/
  | unexpected (found : Option Lexeme) (position : Nat)
deriving DecidableEq, Repr

/-- The error that reports a fault. -/
def SyntaxFault.toError : SyntaxFault → ExpressionError
  | malformedNumber position => .invalid s!"malformed number at position {position}"
  | unexpectedCharacter c position => .invalid s!"unexpected character '{c}' at position {position}"
  | missingRightOperand op position found =>
    .invalidBinary (s!"operator '{op}' at position {position} is missing its right operand, found "
      ++ Lexeme.describe found)
  | emptyParens position => .invalidParen s!"empty parentheses at position {position}"
  | unexpectedClosing position => .invalidParen s!"unexpected ')' at position {position}"
  | operandExpected found position =>
    .invalid (s!"expected a number or '(' but found " ++ Lexeme.describe found
      ++ s!" at position {position}")
  | unmatchedClosing position => .invalidParen s!"unmatched ')' at position {position}"
  | unclosedOpening position => .invalidParen s!"unclosed '(' at position {position}"
  | closingExpected found position =>
    .invalid ("expected ')' but found " ++ Lexeme.describe found ++ s!" at position {position}")
  | unexpected found position =>
    .invalid ("unexpected " ++ Lexeme.describe found ++ s!" at position {position}")

/-- Every fault is reported as a syntax error. -/
theorem SyntaxFault.isSyntaxError_toError (fault : SyntaxFault) :
    fault.toError.isSyntaxError = true := by
  cases fault <;> rfl

/-!
## Lowering faults

The ways in which a tree fails to become a list of operations. `toError` sorts them into the
classes of `ExpressionError` and words them.
-/

/-- A fault of a tree. -/
inductive LoweringFault where
  /-- A literal that is no numeral. -/
  | notNumeric (text : String)
  /-- An operator finds no value to work on. -/
  | withoutOperand
  /-- A sign that is not a minus. -/
  | unsupportedSign (op : Char)
  /-- A binary operator that no arithmetic stands for. -/
  | unsupportedOperator (op : Char)
  /-- A division by the literal `0`. -/
  | zeroDivisor
  /-- More operations than the limit allows. -/
  | tooMany (count limit : Nat)
deriving DecidableEq, Repr

/-- The error that reports a fault. -/
def LoweringFault.toError : LoweringFault → ExpressionError
  | notNumeric text => .invalid s!"'{text}' is not a numeric literal"
  | withoutOperand => .invalid "operator without an operand"
  | unsupportedSign op => .unsupportedOperator s!"unary {op}"
  | unsupportedOperator op => .unsupportedOperator s!"{op}"
  | zeroDivisor => .divisionByZero
  | tooMany count limit => .tooComplex s!"{count} operations exceed maximum of {limit}"

end Stepwise
