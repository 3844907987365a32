import Stepwise.Expr
import Stepwise.Token.Scan

/-!
# Reading expressions

The grammar, loosest binding first:

```text
expression := term (('+' | '-') term)*
term       := unary (('*' | '/' | '%') unary)*
unary      := ('-' | '+') unary | primary
primary    := number | '(' expression ')'
number     := digit+ ('.' digit+)?
```

`Reader` is a machine that takes one token at a time. It waits either for an operand or, with an
operand at hand, for what follows it, and keeps its pending constructs on a stack of frames. So
neither length nor nesting of a text is bounded, and each fault is raised at the first token that
does not fit.
-/

namespace Stepwise

/-!
## Pending constructs

While an expression is read, everything that still waits for an operand lies on a stack of frames,
the innermost first: signs, binary operators with their finished left operand, and open groups.
`Frame.reduce` completes the constructs that a following operator of some precedence, a closing
parenthesis or the end of the input completes.
-/

/-- A construct that waits for an operand. Offsets are kept for fault reports. -/
inductive Frame where
  | sign (op : Char)
  | binary (op : Char) (offset : Nat) (left : Expr)
  | group (offset : Nat)
deriving DecidableEq, Repr

/-- How tightly a binary operator binds: 1 for sums, 2 for products. -/
def precedence (op : Char) : Nat :=
  if op = '+' ∨ op = '-' then 1 else 2

namespace Frame

/-- The frame is an open group. -/
def isGroup : Frame → Bool
  | group _ => true
  | _ => false

/-- Completes the pending signs, and the pending binary operators of precedence `least` or more,
with `operand`, up to the innermost open group. Yields the completed operand and the frames that
stay. -/
def reduce (least : Nat) : Expr → List Frame → Expr × List Frame
  | operand, [] => (operand, [])
  | operand, sign op :: frames => reduce least (.unary op operand) frames
  | operand, binary op offset left :: frames =>
    if least ≤ precedence op then reduce least (.binary op left operand) frames
    else (operand, binary op offset left :: frames)
  | operand, group offset :: frames => (operand, group offset :: frames)

end Frame

/-! ## The reader -/

/-- What a reader waits for. -/
inductive Awaiting where
  | operand
  | operator (operand : Expr)
deriving DecidableEq, Repr

/-- A reader between two tokens: what it waits for, and its pending constructs, innermost first. -/
structure Reader where
  awaiting : Awaiting
  frames : List Frame
deriving DecidableEq, Repr

namespace Reader

/-- The reader before the first token. -/
def start : Reader := ⟨.operand, []⟩

/-- The fault of finding `found` at `position` where an operand has to start. -/
def missingOperand (frames : List Frame) (found : Option Lexeme) (position : Nat) : SyntaxFault :=
  match frames, found with
  | .binary op offset _ :: _, _ => .missingRightOperand op offset found
  | _, some .closing => .unexpectedClosing position
  | _, _ => .operandExpected found position

/-- Takes a token where an operand has to start; `next` is the lexeme after it. -/
def takeOperand (frames : List Frame) (token : Token) (next : Option Lexeme) :
    Except SyntaxFault Reader :=
  match token.lexeme with
  | .number text => .ok ⟨.operator (.literal text), frames⟩
  | .operator op =>
    if op = '-' ∨ op = '+' then .ok ⟨.operand, .sign op :: frames⟩
    else .error (missingOperand frames (some (.operator op)) token.offset)
  | .opening =>
    if next = some .closing then .error (.emptyParens token.offset)
    else .ok ⟨.operand, .group token.offset :: frames⟩
  | .closing => .error (missingOperand frames (some .closing) token.offset)

/-- The fault of a token that can follow no operand. -/
def misplaced (frames : List Frame) (token : Token) : SyntaxFault :=
  if frames.any Frame.isGroup then .closingExpected (some token.lexeme) token.offset
  else .unexpected (some token.lexeme) token.offset

/-- Takes a token after a finished operand. -/
def takeOperator (operand : Expr) (frames : List Frame) (token : Token) :
    Except SyntaxFault Reader :=
  match token.lexeme with
  | .operator op =>
    match Frame.reduce (precedence op) operand frames with
    | (left, frames) => .ok ⟨.operand, .binary op token.offset left :: frames⟩
  | .closing =>
    match Frame.reduce 0 operand frames with
    | (inner, .group _ :: frames) => .ok ⟨.operator (.paren inner), frames⟩
    | _ => .error (.unmatchedClosing token.offset)
  | _ => .error (misplaced frames token)

/-- Takes one token; `next` is the lexeme after it. -/
def step (reader : Reader) (token : Token) (next : Option Lexeme) : Except SyntaxFault Reader :=
  match reader.awaiting with
  | .operand => takeOperand reader.frames token next
  | .operator operand => takeOperator operand reader.frames token

/-- Takes the end of the input, which stands at offset `stop`. -/
def finish (reader : Reader) (stop : Nat) : Except SyntaxFault Expr :=
  match reader.awaiting with
  | .operand => .error (missingOperand reader.frames none stop)
  | .operator operand =>
    match Frame.reduce 0 operand reader.frames with
    | (_, .group offset :: _) => .error (.unclosedOpening offset)
    | (e, _) => .ok e

/-- Takes all tokens and then the end of the input. -/
def run (stop : Nat) : Reader → List Token → Except SyntaxFault Expr
  | reader, [] => reader.finish stop
  | reader, token :: rest =>
    match reader.step token (rest.head?.map Token.lexeme) with
    | .ok reader => run stop reader rest
    | .error fault => .error fault

end Reader

namespace Expr

/-- The expression that tokens make up. -/
def ofTokens (list : TokenList) : Except SyntaxFault Expr :=
  Reader.run list.stop Reader.start list.tokens

/-- The expression of a text that is not blank. -/
def ofVisibleText (text : String) : Except SyntaxFault Expr :=
  match Token.scan text with
  | .ok list => ofTokens list
  | .error fault => .error fault

/-- Reads a text. A blank text is empty, whatever its blank characters are. -/
def read (text : String) : Except ExpressionError Expr :=
  if text.toList.all Text.isBlank then .error .empty
  else
    match ofVisibleText text with
    | .ok e => .ok e
    | .error fault => .error fault.toError

end Expr

/-!
## A reader from token to token

`Reader.Reaches` follows a reader through the tokens of a list. Which parentheses are open after
some tokens is said by these tokens alone: `Token.unmatched` lists the opening parentheses that
nothing after them closes.
-/

namespace Token

/-- How many closing parentheses among the tokens close no group that is opened among them. -/
def surplus : List Token → Nat
  | [] => 0
  | token :: rest =>
    match token.lexeme with
    | .opening => surplus rest - 1
    | .closing => surplus rest + 1
    | _ => surplus rest

/-- The offsets of the opening parentheses that none of the tokens closes, in the order of the
text. -/
def unmatched : List Token → List Nat
  | [] => []
  | token :: rest =>
    if token.lexeme = .opening ∧ surplus rest = 0 then token.offset :: unmatched rest
    else unmatched rest

end Token

/-- From the start a reader has taken the tokens `before` and come to a state; the tokens `rest` are
ahead of it. -/
inductive Reader.Reaches : List Token → List Token → Reader → Prop where
  | start (tokens : List Token) : Reaches [] tokens .start
  | step {before rest : List Token} {token : Token} {reader after : Reader} :
      Reaches before (token :: rest) reader →
      reader.step token (rest.head?.map Token.lexeme) = .ok after →
      Reaches (before ++ [token]) rest after

namespace Frame

/-- The precedence of a pending binary operator. -/
def precedence? : Frame → Option Nat
  | binary op _ _ => some (precedence op)
  | _ => none

/-- The frames up to the innermost open group. -/
def innermost (frames : List Frame) : List Frame :=
  frames.takeWhile fun frame => !frame.isGroup

/-- Between two open groups, within the innermost and outside the outermost one, each pending binary
operator binds tighter than those below it. -/
def IsAscending (frames : List Frame) : Prop :=
  ∀ part ∈ frames.splitOnP isGroup, (part.filterMap precedence?).Pairwise (· > ·)

end Frame

end Stepwise
