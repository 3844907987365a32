import Stepwise.Json.Decode
import Stepwise.Operation

/-!
# Operations as documents

Operations and decompositions are exchanged as documents: identifiers and operands as their texts,
kinds and statuses as their names. Encoding lists the members in the order of declaration.
-/

namespace Stepwise

/-- The document of a text that may be missing. -/
def Json.ofId? : Option Id → Json
  | some id => .string id.text
  | none => .null

/-- Reads a kind. -/
def Arithmetic.ofJson : Decode.Decoder Arithmetic :=
  Decode.variant Arithmetic.name Arithmetic.all

/-- Reads a status. -/
def Status.ofJson : Decode.Decoder Status :=
  Decode.variant Status.name Status.all

namespace Operation

/-- The document of an operation. -/
def toJson (operation : Operation) : Json :=
  .object
    [("id", .string operation.id.text),
      ("calculationId", .ofId? operation.calculation),
      ("operationType", .string operation.kind.name),
      ("operand1", .string operation.left.text),
      ("operand2", .string operation.right.text),
      ("status", .string operation.status.name)]

/-- Reads the members of an operation. Only the calculation may be missing. -/
def ofMembers (members : List (String × Json)) : Except DecodeFault Operation := do
  let calculation ← Decode.member? members "calculationId" (Decode.nullable Decode.id)
  let id ← Decode.member? members "id" Decode.id
  let left ← Decode.member? members "operand1" Decode.operand
  let right ← Decode.member? members "operand2" Decode.operand
  let kind ← Decode.member? members "operationType" Arithmetic.ofJson
  let status ← Decode.member? members "status" Status.ofJson
  let id ← Decode.required "id" id
  let kind ← Decode.required "operationType" kind
  let left ← Decode.required "operand1" left
  let right ← Decode.required "operand2" right
  let status ← Decode.required "status" status
  return ⟨id, calculation.join, kind, left, right, status⟩

/-- How faults name an operation that is written as an array. -/
def whole : String := "struct Operation with 6 elements"

/-- Reads the members of an operation from an array. -/
def ofItems (items : List Json) : Except DecodeFault Operation := do
  let id ← Decode.item whole items 0 Decode.id
  let calculation ← Decode.item whole items 1 (Decode.nullable Decode.id)
  let kind ← Decode.item whole items 2 Arithmetic.ofJson
  let left ← Decode.item whole items 3 Decode.operand
  let right ← Decode.item whole items 4 Decode.operand
  let status ← Decode.item whole items 5 Status.ofJson
  Decode.noMore items 6
  return ⟨id, calculation, kind, left, right, status⟩

/-- Reads an operation. -/
def ofJson : Decode.Decoder Operation
  | .object members => ofMembers members
  | .array items => ofItems items
  | found => .error (.wrongType found "struct Operation")

end Operation

namespace Decomposition

/-- The document of a decomposition. -/
def toJson (decomposition : Decomposition) : Json :=
  .object
    [("operations", .array (decomposition.operations.map Operation.toJson)),
      ("result", .string decomposition.result.text)]

/-- Reads the members of a decomposition. -/
def ofMembers (members : List (String × Json)) : Except DecodeFault Decomposition := do
  let operations ← Decode.member? members "operations" (Decode.list Operation.ofJson)
  let result ← Decode.member? members "result" Decode.operand
  let operations ← Decode.required "operations" operations
  let result ← Decode.required "result" result
  return ⟨operations, result⟩

/-- How faults name a decomposition that is written as an array. -/
def whole : String := "struct Decomposition with 2 elements"

/-- Reads the members of a decomposition from an array. -/
def ofItems (items : List Json) : Except DecodeFault Decomposition := do
  let operations ← Decode.item whole items 0 (Decode.list Operation.ofJson)
  let result ← Decode.item whole items 1 Decode.operand
  Decode.noMore items 2
  return ⟨operations, result⟩

/-- Reads a decomposition. -/
def ofJson : Decode.Decoder Decomposition
  | .object members => ofMembers members
  | .array items => ofItems items
  | found => .error (.wrongType found "struct Decomposition")

end Decomposition

end Stepwise
