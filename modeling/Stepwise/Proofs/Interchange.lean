import Stepwise.Interchange
import Stepwise.OperationOrder
import Stepwise.Proofs.Json.Members
import Stepwise.Proofs.Lowering.Literals
import Stepwise.Proofs.Operand

/-!
# Documents read back

A document may spell a decomposition in many ways, but it is written in one way only. Reading what
was written gives the decomposition back as long as its literals are numerals
(`Decomposition.ofJson_toJson`): an operand travels as bare text, and a text that is neither a
numeral nor a reference is refused. Documents are refused for the same reason, and expressions have
no other literals, so whatever was read or decomposed can be written and read again
(`Decomposition.documents_agree`).
-/

namespace Stepwise

open Decode (member?_eq_some_iff required_eq_ok_iff item_eq_ok_iff noMore_eq_ok_iff list_eq_ok_iff
  exists_of_mem_list)

namespace Operation

/-- Both operands are well spelt. -/
def isWellSpelt (operation : Operation) : Bool :=
  operation.left.isWellSpelt && operation.right.isWellSpelt

end Operation

/-- All operands are well spelt: their literals are numerals. -/
def Decomposition.isWellSpelt (decomposition : Decomposition) : Bool :=
  decomposition.operations.all Operation.isWellSpelt && decomposition.result.isWellSpelt

theorem Decode.operand_eq_ok_iff {document : Json} {value : Operand} :
    Decode.operand document = .ok value ↔
      ∃ text, document = .string text ∧ Operand.ofText text = .ok value := by
  cases document <;> simp [Decode.operand, mapError_eq_ok_iff]

theorem Decode.isWellSpelt_of_operand {document : Json} {value : Operand}
    (h : Decode.operand document = .ok value) : value.isWellSpelt = true := by
  obtain ⟨text, -, read⟩ := operand_eq_ok_iff.1 h
  exact Operand.isWellSpelt_of_ofText read

theorem Decode.operand_text {value : Operand} (spelt : value.isWellSpelt = true) :
    Decode.operand (.string value.text) = .ok value :=
  operand_eq_ok_iff.2 ⟨_, rfl, Operand.ofText_text spelt⟩

@[simp] theorem Decode.id_text (id : Id) : Decode.id (.string id.text) = .ok id := by
  simp only [Decode.id, Id.ofText?_text]

theorem Decode.nullable_ofId? (calculation : Option Id) :
    Decode.nullable Decode.id (.ofId? calculation) = .ok calculation := by
  cases calculation with
  | none => rfl
  | some id => simp [Json.ofId?, Decode.nullable, Except.map]

theorem Arithmetic.ofJson_name (kind : Arithmetic) : ofJson (.string kind.name) = .ok kind := by
  cases kind <;> rfl

theorem Status.ofJson_name (status : Status) : ofJson (.string status.name) = .ok status := by
  cases status <;> rfl

namespace Operation

/-- An operation is read from members that are what its parts are read from. -/
theorem ofMembers_eq_ok_iff {members : List (String × Json)} {operation : Operation} :
    ofMembers members = .ok operation ↔
      (∃ calculation,
        Decode.member? members "calculationId" (Decode.nullable Decode.id) = .ok calculation ∧
          calculation.join = operation.calculation) ∧
      Decode.member? members "id" Decode.id = .ok (some operation.id) ∧
      Decode.member? members "operand1" Decode.operand = .ok (some operation.left) ∧
      Decode.member? members "operand2" Decode.operand = .ok (some operation.right) ∧
      Decode.member? members "operationType" Arithmetic.ofJson = .ok (some operation.kind) ∧
      Decode.member? members "status" Status.ofJson = .ok (some operation.status) := by
  simp only [ofMembers, bind_eq_ok_iff, required_eq_ok_iff]
  constructor
  · rintro ⟨calculation, bound, id, named, left, first, right, second, kind, does, status, marked,
      _, rfl, _, rfl, _, rfl, _, rfl, _, rfl, eq⟩
    cases eq
    exact ⟨⟨calculation, bound, rfl⟩, named, first, second, does, marked⟩
  · rintro ⟨⟨calculation, bound, join⟩, named, first, second, does, marked⟩
    refine ⟨calculation, bound, _, named, _, first, _, second, _, does, _, marked, _, rfl, _, rfl,
      _, rfl, _, rfl, _, rfl, ?_⟩
    rw [join]
    rfl

theorem ofItems_eq_ok_iff {items : List Json} {operation : Operation} :
    ofItems items = .ok operation ↔
      Decode.item whole items 0 Decode.id = .ok operation.id ∧
      Decode.item whole items 1 (Decode.nullable Decode.id) = .ok operation.calculation ∧
      Decode.item whole items 2 Arithmetic.ofJson = .ok operation.kind ∧
      Decode.item whole items 3 Decode.operand = .ok operation.left ∧
      Decode.item whole items 4 Decode.operand = .ok operation.right ∧
      Decode.item whole items 5 Status.ofJson = .ok operation.status ∧ items.length ≤ 6 := by
  simp only [ofItems, bind_eq_ok_iff]
  constructor
  · rintro ⟨id, named, calculation, bound, kind, does, left, first, right, second, status, marked,
      ⟨⟩, done, eq⟩
    cases eq
    exact ⟨named, bound, does, first, second, marked, noMore_eq_ok_iff.1 done⟩
  · rintro ⟨named, bound, does, first, second, marked, done⟩
    exact ⟨_, named, _, bound, _, does, _, first, _, second, _, marked, (), noMore_eq_ok_iff.2 done,
      rfl⟩

theorem ofJson_toJson {operation : Operation} (spelt : operation.isWellSpelt = true) :
    ofJson operation.toJson = .ok operation := by
  obtain ⟨left, right⟩ := Bool.and_eq_true_iff.1 spelt
  refine ofMembers_eq_ok_iff.2 ⟨⟨some operation.calculation, ?_, rfl⟩, ?_⟩
  · exact member?_eq_some_iff.2 ⟨_, rfl, Decode.nullable_ofId? _⟩
  · simp only [member?_eq_some_iff]
    exact ⟨⟨_, rfl, Decode.id_text _⟩, ⟨_, rfl, Decode.operand_text left⟩,
      ⟨_, rfl, Decode.operand_text right⟩, ⟨_, rfl, Arithmetic.ofJson_name _⟩,
      ⟨_, rfl, Status.ofJson_name _⟩⟩

theorem isWellSpelt_of_ofJson {document : Json} {operation : Operation}
    (h : ofJson document = .ok operation) : operation.isWellSpelt = true := by
  rw [isWellSpelt, Bool.and_eq_true]
  cases document with
  | object members =>
    obtain ⟨-, -, left, right, -⟩ := ofMembers_eq_ok_iff.1 h
    obtain ⟨_, -, left⟩ := member?_eq_some_iff.1 left
    obtain ⟨_, -, right⟩ := member?_eq_some_iff.1 right
    exact ⟨Decode.isWellSpelt_of_operand left, Decode.isWellSpelt_of_operand right⟩
  | array items =>
    obtain ⟨-, -, -, left, right, -⟩ := ofItems_eq_ok_iff.1 h
    obtain ⟨_, -, left⟩ := item_eq_ok_iff.1 left
    obtain ⟨_, -, right⟩ := item_eq_ok_iff.1 right
    exact ⟨Decode.isWellSpelt_of_operand left, Decode.isWellSpelt_of_operand right⟩
  | null | bool | int | float | string => cases h

end Operation

namespace Decomposition

theorem ofMembers_eq_ok_iff {members : List (String × Json)} {decomposition : Decomposition} :
    ofMembers members = .ok decomposition ↔
      Decode.member? members "operations" (Decode.list Operation.ofJson) =
          .ok (some decomposition.operations) ∧
        Decode.member? members "result" Decode.operand = .ok (some decomposition.result) := by
  simp only [ofMembers, bind_eq_ok_iff, required_eq_ok_iff]
  constructor
  · rintro ⟨operations, first, result, second, _, rfl, _, rfl, eq⟩
    cases eq
    exact ⟨first, second⟩
  · rintro ⟨first, second⟩
    exact ⟨_, first, _, second, _, rfl, _, rfl, rfl⟩

theorem ofItems_eq_ok_iff {items : List Json} {decomposition : Decomposition} :
    ofItems items = .ok decomposition ↔
      Decode.item whole items 0 (Decode.list Operation.ofJson) = .ok decomposition.operations ∧
        Decode.item whole items 1 Decode.operand = .ok decomposition.result ∧
        items.length ≤ 2 := by
  simp only [ofItems, bind_eq_ok_iff]
  constructor
  · rintro ⟨operations, first, result, second, ⟨⟩, done, eq⟩
    cases eq
    exact ⟨first, second, noMore_eq_ok_iff.1 done⟩
  · rintro ⟨first, second, done⟩
    exact ⟨_, first, _, second, (), noMore_eq_ok_iff.2 done, rfl⟩

theorem isWellSpelt_iff {decomposition : Decomposition} :
    decomposition.isWellSpelt = true ↔
      (∀ operation ∈ decomposition.operations, operation.isWellSpelt = true) ∧
        decomposition.result.isWellSpelt = true := by
  rw [isWellSpelt, Bool.and_eq_true, List.all_eq_true]

/-- A decomposition whose literals are numerals is what its document is read as. -/
theorem ofJson_toJson {decomposition : Decomposition} (spelt : decomposition.isWellSpelt = true) :
    ofJson decomposition.toJson = .ok decomposition := by
  obtain ⟨operations, result⟩ := isWellSpelt_iff.1 spelt
  refine ofMembers_eq_ok_iff.2 ⟨member?_eq_some_iff.2 ⟨_, rfl, ?_⟩,
    member?_eq_some_iff.2 ⟨_, rfl, Decode.operand_text result⟩⟩
  refine list_eq_ok_iff.2 ⟨_, rfl, ?_⟩
  rw [List.forall₂_map_left_iff, List.forall₂_same]
  exact fun operation mem => Operation.ofJson_toJson (operations operation mem)

/-- What a document is read as has numerals for its literals. -/
theorem isWellSpelt_of_ofJson {document : Json} {decomposition : Decomposition}
    (h : ofJson document = .ok decomposition) : decomposition.isWellSpelt = true := by
  have all {found : Json} {operations : List Operation}
      (read : Decode.list Operation.ofJson found = .ok operations) :
      ∀ operation ∈ operations, operation.isWellSpelt = true := by
    intro operation mem
    obtain ⟨item, accepted⟩ := exists_of_mem_list read mem
    exact Operation.isWellSpelt_of_ofJson accepted
  rw [isWellSpelt_iff]
  cases document with
  | object members =>
    obtain ⟨operations, result⟩ := ofMembers_eq_ok_iff.1 h
    obtain ⟨_, -, operations⟩ := member?_eq_some_iff.1 operations
    obtain ⟨_, -, result⟩ := member?_eq_some_iff.1 result
    exact ⟨all operations, Decode.isWellSpelt_of_operand result⟩
  | array items =>
    obtain ⟨operations, result, -⟩ := ofItems_eq_ok_iff.1 h
    obtain ⟨_, -, operations⟩ := item_eq_ok_iff.1 operations
    obtain ⟨_, -, result⟩ := item_eq_ok_iff.1 result
    exact ⟨all operations, Decode.isWellSpelt_of_operand result⟩
  | null | bool | int | float | string => cases h

/-- Binding leaves the operands alone. -/
theorem isWellSpelt_bind (calculation : Id) (decomposition : Decomposition) :
    (decomposition.bind calculation).isWellSpelt = decomposition.isWellSpelt := by
  simp only [isWellSpelt, bind, List.all_map]
  rfl

theorem isWellSpelt_of_allLiterals {decomposition : Decomposition}
    (h : decomposition.AllLiterals fun text => Numeral.isNumeral text = true) :
    decomposition.isWellSpelt = true := by
  have spelt {operand : Operand}
      (numeral : ∀ text, operand = .literal text → Numeral.isNumeral text = true) :
      operand.isWellSpelt = true := by
    cases operand with
    | literal text => exact numeral text rfl
    | reference id => rfl
  rw [isWellSpelt_iff]
  refine ⟨fun operation mem => Bool.and_eq_true_iff.2 ⟨spelt ?_, spelt ?_⟩, spelt h.result⟩
  · exact fun text eq => h.operands operation mem text (.inl eq)
  · exact fun text eq => h.operands operation mem text (.inr eq)

/-- The literals of a decomposed text are numerals. -/
theorem isWellSpelt_of_decompose {limit : Limit} {supply : Supply} {text : String}
    {decomposition : Decomposition} (h : decompose limit supply text = .ok decomposition) :
    decomposition.isWellSpelt = true := by
  obtain ⟨e, -, lowered⟩ := lower_of_decompose h
  obtain ⟨tally, lowers, -⟩ := Expr.lowers_of_lower lowered
  exact isWellSpelt_of_allLiterals (Expr.allLiterals_of_lower lowered
    (fun _ => Numeral.isNumeral_negate) (by decide) lowers.isNumeral_literals)

/-- A decomposition whose literals are numerals is read back from its document. Such are all that
expressions come to, bound or not. A document that is accepted, however it is written, is replaced
by one that stands for the same decomposition, and the order check finds the same in both. -/
theorem documents_agree :
    (∀ decomposition : Decomposition, decomposition.isWellSpelt = true →
      ofJson decomposition.toJson = .ok decomposition) ∧
    (∀ limit supply text decomposition, decompose limit supply text = .ok decomposition →
      (decomposition.isWellSpelt = true ∧ ofJson decomposition.toJson = .ok decomposition) ∧
      ∀ calculation, (decomposition.bind calculation).isWellSpelt = true ∧
        ofJson (decomposition.bind calculation).toJson = .ok (decomposition.bind calculation)) ∧
    (∀ document decomposition, ofJson document = .ok decomposition →
      ∃ again, ofJson decomposition.toJson = .ok again ∧ again = decomposition ∧
        checkOrder again.operations = checkOrder decomposition.operations) := by
  refine ⟨fun _ => ofJson_toJson, ?_, ?_⟩
  · intro limit supply text decomposition decomposed
    have spelt := isWellSpelt_of_decompose decomposed
    have bound (calculation : Id) : (decomposition.bind calculation).isWellSpelt = true := by
      rwa [isWellSpelt_bind]
    exact ⟨⟨spelt, ofJson_toJson spelt⟩, fun calculation =>
      ⟨bound calculation, ofJson_toJson (bound calculation)⟩⟩
  · intro document decomposition read
    exact ⟨decomposition, ofJson_toJson (isWellSpelt_of_ofJson read), rfl, rfl⟩

/-- A quotient of numerals with signs, an expression, and a document that spells an operation as an
array with capital digits and a kind that is an only key. -/
theorem documents_agree_quotient :
    let quotient : Operation := .new ⟨10⟩ .division (.literal "-7") (.literal "0.50")
    let document : Json := .object [("unknown", .null),
      ("result", .string "ref:\x7b00000000-0000-0000-0000-00000000000A\x7d"),
      ("operations", .array [.array [.string "0000000000000000000000000000000A", .null,
        .object [("Division", .null)], .string "-7", .string "0.50", .string "Pending"]])]
    (isWellSpelt ⟨[quotient], .reference ⟨10⟩⟩ = true ∧
      ofJson (toJson ⟨[quotient], .reference ⟨10⟩⟩) = .ok ⟨[quotient], .reference ⟨10⟩⟩) ∧
    (∃ decomposition, decompose .standard (.counting ⟨10⟩) "-7/0.50" = .ok decomposition ∧
      decomposition.isWellSpelt = true ∧
      ofJson (decomposition.bind ⟨3⟩).toJson = .ok (decomposition.bind ⟨3⟩)) ∧
    ofJson document = .ok ⟨[quotient], .reference ⟨10⟩⟩ ∧
      ∃ again, ofJson (toJson ⟨[quotient], .reference ⟨10⟩⟩) = .ok again ∧
        again = ⟨[quotient], .reference ⟨10⟩⟩ ∧
        checkOrder again.operations = checkOrder [quotient] := by
  intro quotient document
  have spelt : isWellSpelt ⟨[quotient], .reference ⟨10⟩⟩ = true := by decide
  have decomposed : decompose .standard (.counting ⟨10⟩) "-7/0.50" =
      .ok ⟨[quotient], .reference ⟨10⟩⟩ := by decide +kernel
  have accepted : ofJson document = .ok ⟨[quotient], .reference ⟨10⟩⟩ := by rfl
  exact ⟨⟨spelt, documents_agree.1 _ spelt⟩,
    ⟨_, decomposed, spelt, ((documents_agree.2.1 _ _ _ _ decomposed).2 ⟨3⟩).2⟩,
    accepted, documents_agree.2.2 _ _ accepted⟩

end Decomposition

end Stepwise
