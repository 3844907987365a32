import Stepwise.Expr.Reader
import Stepwise.Lowering

/-!
# Requests about expressions

A text is checked, or is taken apart into operations. The library itself reports every kind of
error; a client reports four classes of them.
-/

namespace Stepwise

/-!
## From text to operations

`validate` reads a text and forgets the tree; `decompose` reads it and takes the tree apart. A
text that is read can still be refused by `decompose`, but never for its syntax.
-/

/-- Checks that a text is a well-formed expression. -/
def validate (text : String) : Except ExpressionError Unit :=
  match Expr.read text with
  | .ok _ => .ok ()
  | .error e => .error e

/-- The operations of an expression, and the operand that holds its value. -/
def decompose (limit : Limit) (supply : Supply) (text : String) :
    Except ExpressionError Decomposition :=
  match Expr.read text with
  | .ok e =>
    match e.lower limit supply with
    | .ok decomposition => .ok decomposition
    | .error fault => .error fault.toError
  | .error e => .error e

/-- The operations of an expression alone. -/
def decomposeToList (limit : Limit) (supply : Supply) (text : String) :
    Except ExpressionError (List Operation) :=
  (decompose limit supply text).map Decomposition.operations

/-!
## The public face

A client reports errors in four classes that say what a caller can do about them, and words them
for people who do not know the grammar.
-/

/-- The reason why a request of a client fails. -/
inductive ClientError where
  | invalidExpression (message : String)
  | divisionByZero
  | tooComplex (message : String)
  | internal (message : String)
deriving DecidableEq, Repr

namespace ClientError

/-- The wording of an error. -/
def message : ClientError → String
  | invalidExpression detail => s!"Invalid expression: {detail}"
  | divisionByZero => "Division by zero"
  | tooComplex detail => s!"Expression too complex: {detail}"
  | internal detail => s!"Internal error: {detail}"

/-- The expression is blank, malformed, or uses an operator that cannot be executed. -/
def isInvalidExpression : ClientError → Bool
  | invalidExpression _ => true
  | _ => false

/-- A divisor is the literal `0`. -/
def isDivisionByZero : ClientError → Bool
  | divisionByZero => true
  | _ => false

/-- The expression needs too many operations. -/
def isTooComplex : ClientError → Bool
  | tooComplex _ => true
  | _ => false

end ClientError

/-- How an error about an expression is reported to a client. -/
def ExpressionError.toClient : ExpressionError → ClientError
  | .divisionByZero => .divisionByZero
  | .tooComplex detail => .tooComplex detail
  | e => .invalidExpression e.message

namespace Client

/-- Checks that a text is a well-formed expression. -/
def validate (text : String) : Except ClientError Unit :=
  (Stepwise.validate text).mapError ExpressionError.toClient

/-- The decomposition of an expression. -/
def decompose (limit : Limit) (supply : Supply) (text : String) :
    Except ClientError Decomposition :=
  (Stepwise.decompose limit supply text).mapError ExpressionError.toClient

end Client

end Stepwise
