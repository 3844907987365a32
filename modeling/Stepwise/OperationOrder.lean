import Std.Data.HashMap
import Std.Data.HashSet
import Stepwise.Operation

/-!
# Order of operations

A list of operations can be executed from front to back when no identifier is used twice and every
reference names an operation that stands earlier in the list. `checkOrder` decides this and names
the first place where it fails.
-/

namespace Stepwise

instance : Hashable Id := ⟨fun id => hash id.bits.toNat⟩

/-- A place where a list of operations cannot be executed. -/
inductive OrderFault where
  /-- The operation at `index` uses the identifier of the one at `first`. -/
  | duplicateId (id : Id) (index first : Nat)
  /-- The operation at `index` refers to itself or to a later one. -/
  | forwardReference (index : Nat) (reference : Id)
  /-- The operation at `index` refers to one that is nowhere in the list. -/
  | unknownReference (index : Nat) (reference : Id)
deriving DecidableEq, Repr

/-- The wording of a fault. -/
def OrderFault.message : OrderFault → String
  | duplicateId id index first =>
    s!"operation id {id} at index {index} was already used at index {first}"
  | forwardReference index reference =>
    s!"operation at index {index} references {reference}, which only appears later"
  | unknownReference index reference =>
    s!"operation at index {index} references unknown operation {reference}"

namespace OperationOrder

/-- The first of the references that is not stored yet. -/
def firstMissing? (stored : Std.HashMap Id Nat) (references : List Id) : Option Id :=
  references.find? fun reference => !stored.contains reference

/-- Checks operations from `index` on. `known` are the identifiers of the whole list, and `stored`
maps the identifiers of the operations before `index` to their places. -/
def checkFrom (known : Std.HashSet Id) :
    (index : Nat) → (stored : Std.HashMap Id Nat) → List Operation → Except OrderFault Unit
  | _, _, [] => .ok ()
  | index, stored, operation :: rest =>
    match firstMissing? stored operation.references with
    | some reference =>
      if known.contains reference then .error (.forwardReference index reference)
      else .error (.unknownReference index reference)
    | none =>
      match stored[operation.id]? with
      | some first => .error (.duplicateId operation.id index first)
      | none => checkFrom known (index + 1) (stored.insert operation.id index) rest

end OperationOrder

/-- Checks that operations can be executed from front to back. -/
def checkOrder (operations : List Operation) : Except OrderFault Unit :=
  OperationOrder.checkFrom (Std.HashSet.ofList (operations.map Operation.id)) 0 ∅ operations

end Stepwise
