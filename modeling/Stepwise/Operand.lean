import Stepwise.Id
import Stepwise.Numeral

/-!
# Operands

An operand is a numeral or a reference to the result of another operation. Its text is the numeral
itself, or the prefix `ref:` and the identifier. Reading a text looks at the prefix only to decide
between the two.
-/

namespace Stepwise

/-- An input of an operation. -/
inductive Operand where
  | literal (text : String)
  | reference (id : Id)
deriving DecidableEq, Repr, Inhabited

/-- The reason why a text is not an operand. -/
inductive OperandError where
  | empty
  | invalidReference (text : String)
  | invalidLiteral (text : String)
deriving DecidableEq, Repr

/-- The wording of an error. -/
def OperandError.message : OperandError → String
  | empty => "operand token is empty"
  | invalidReference text => s!"invalid operation reference '{text}'"
  | invalidLiteral text => s!"invalid numeric literal '{text}'"

namespace Operand

/-- The characters before the identifier in the text of a reference. -/
def referencePrefix : List Char := ['r', 'e', 'f', ':']

/-- The text of a literal. -/
def literal? : Operand → Option String
  | literal text => some text
  | reference _ => none

/-- The identifier of a reference. -/
def reference? : Operand → Option Id
  | literal _ => none
  | reference id => some id

/-- The literal `0`, spelt exactly so. -/
def isZeroLiteral (operand : Operand) : Bool :=
  operand.literal? == some "0"

/-- The text of an operand. -/
def text : Operand → String
  | literal text => text
  | reference id => String.ofList (referencePrefix ++ id.chars)

instance : ToString Operand := ⟨text⟩

/-- The characters after the prefix of references, if the text starts with it. -/
def afterReferencePrefix? (cs : List Char) : Option (List Char) :=
  if referencePrefix.isPrefixOf cs then some (cs.drop referencePrefix.length) else none

/-- Reads an operand. A text with the prefix is never a literal, and an identifier without it is
never a reference. -/
def ofText (text : String) : Except OperandError Operand :=
  if text.isEmpty then .error .empty
  else
    match afterReferencePrefix? text.toList with
    | some rest =>
      match Id.ofChars? rest with
      | some id => .ok (.reference id)
      | none => .error (.invalidReference text)
    | none =>
      if Numeral.isNumeral text then .ok (.literal text) else .error (.invalidLiteral text)

end Operand

end Stepwise
