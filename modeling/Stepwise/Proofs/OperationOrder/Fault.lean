import Stepwise.Proofs.OperationOrder.Execution

/-!
# The fault that is reported

A list that cannot be executed is refused for its first operation that cannot, and of that operation
for the first reference that leads nowhere, or else for its identifier. So a fault is reported
exactly if everything before its index is accepted and the fault holds there
(`checkOrder_eq_error_iff`). The map of the check is what carries this: after a list that is ready
it leads each identifier to the one place where it stands.
-/

namespace Stepwise

/-- The index of the operation that a fault is about. -/
def OrderFault.index : OrderFault → Nat
  | duplicateId _ index _ => index
  | forwardReference index _ => index
  | unknownReference index _ => index

namespace OperationOrder

/-- The operation at index `i` has the identifier. -/
def StandsAt (operations : List Operation) (i : Nat) (id : Id) : Prop :=
  ∃ operation, operations[i]? = some operation ∧ operation.id = id

/-- Of the references of the operation at index `i`, this is the first one, the left operand ahead
of the right one, that names no operation before `i`. -/
def IsFirstUnresolved (operations : List Operation) (i : Nat) (reference : Id) : Prop :=
  ∃ operation resolved rest, operations[i]? = some operation ∧
    operation.references = resolved ++ reference :: rest ∧
    (∀ id ∈ resolved, StandsBefore operations i id) ∧ ¬StandsBefore operations i reference

/-- What a fault says of the operation at its index is so. Whether the operations before it are in
order is left open. -/
inductive Holds (operations : List Operation) : OrderFault → Prop where
  | forward {i : Nat} {reference : Id} : IsFirstUnresolved operations i reference →
      (∃ j, i ≤ j ∧ StandsAt operations j reference) →
      Holds operations (.forwardReference i reference)
  | unknown {i : Nat} {reference : Id} : IsFirstUnresolved operations i reference →
      (∀ j, ¬StandsAt operations j reference) →
      Holds operations (.unknownReference i reference)
  | duplicate {i first : Nat} {operation : Operation} : operations[i]? = some operation →
      (∀ id ∈ operation.references, StandsBefore operations i id) →
      first < i → StandsAt operations first operation.id →
      (∀ j, j < i → StandsAt operations j operation.id → j = first) →
      Holds operations (.duplicateId operation.id i first)

namespace IsFirstUnresolved

variable {operations : List Operation} {i : Nat} {reference : Id}

theorem not_standsBefore (first : IsFirstUnresolved operations i reference) :
    ¬StandsBefore operations i reference :=
  first.elim fun _ ⟨_, _, _, _, _, unresolved⟩ => unresolved

theorem lt_length (first : IsFirstUnresolved operations i reference) : i < operations.length :=
  first.elim fun _ ⟨_, _, found, _⟩ => (List.getElem?_eq_some_iff.1 found).1

theorem mem_references (first : IsFirstUnresolved operations i reference) {operation : Operation}
    (here : operations[i]? = some operation) : reference ∈ operation.references := by
  obtain ⟨each, resolved, rest, found, parts, -, -⟩ := first
  obtain rfl := Option.some.inj (here.symm.trans found)
  rw [parts]
  exact List.mem_append_right _ List.mem_cons_self

theorem not_resolved (first : IsFirstUnresolved operations i reference) {operation : Operation}
    (here : operations[i]? = some operation) :
    ¬∀ id ∈ operation.references, StandsBefore operations i id :=
  fun resolved => first.not_standsBefore (resolved reference (first.mem_references here))

theorem unique (first : IsFirstUnresolved operations i reference) {other : Id}
    (alsoFirst : IsFirstUnresolved operations i other) : reference = other := by
  obtain ⟨operation, resolved, rest, found, parts, all, unresolved⟩ := first
  obtain ⟨each, resolved', rest', found', parts', all', unresolved'⟩ := alsoFirst
  obtain rfl := Option.some.inj (found.symm.trans found')
  rw [parts] at parts'
  -- The longer one of the two resolved parts would hold the unresolved end of the other.
  rcases List.append_eq_append_iff.1 parts' with ⟨middle, rfl, eq⟩ | ⟨middle, rfl, eq⟩
  · cases middle with
    | nil => exact (List.cons.inj eq).1
    | cons id middle =>
      obtain ⟨rfl, -⟩ := List.cons.inj eq
      exact absurd (all' reference (by simp)) unresolved
  · cases middle with
    | nil => exact (List.cons.inj eq).1.symm
    | cons id middle =>
      obtain ⟨rfl, -⟩ := List.cons.inj eq
      exact absurd (all other (by simp)) unresolved'

end IsFirstUnresolved

theorem standsBefore_iff {operations : List Operation} {i : Nat} {id : Id} :
    StandsBefore operations i id ↔ ∃ j, j < i ∧ StandsAt operations j id := by
  constructor
  · rintro ⟨j, earlier, less, stands⟩
    exact ⟨j, less, earlier, stands⟩
  · rintro ⟨j, less, earlier, stands⟩
    exact ⟨j, earlier, less, stands⟩

theorem StandsAt.lt_length {operations : List Operation} {i : Nat} {id : Id}
    (stands : StandsAt operations i id) : i < operations.length :=
  stands.elim fun _ ⟨found, _⟩ => (List.getElem?_eq_some_iff.1 found).1

theorem exists_standsAt_iff {operations : List Operation} {id : Id} :
    (∃ j, StandsAt operations j id) ↔ id ∈ operations.map Operation.id := by
  rw [← standsBefore_length, standsBefore_iff]
  exact exists_congr fun j => ⟨fun stands => ⟨stands.lt_length, stands⟩, And.right⟩

theorem standsAt_append {before after : List Operation} {j : Nat} (inside : j < before.length)
    {id : Id} : StandsAt (before ++ after) j id ↔ StandsAt before j id := by
  rw [StandsAt, StandsAt, List.getElem?_append_left inside]

theorem standsAt_concat {before : List Operation} {operation : Operation} {j : Nat} {id : Id} :
    StandsAt (before ++ [operation]) j id ↔
      StandsAt before j id ∨ j = before.length ∧ operation.id = id := by
  rcases Nat.lt_trichotomy j before.length with less | rfl | more
  · rw [standsAt_append less]
    simp [Nat.ne_of_lt less]
  · simp [StandsAt]
  · have beyond : (before ++ [operation]).length ≤ j := by
      rw [List.length_append, List.length_singleton]
      exact more
    simp [StandsAt, List.getElem?_eq_none beyond, List.getElem?_eq_none (Nat.le_of_lt more),
      Nat.ne_of_gt more]

/-- What stands before the end of a list is not changed by what follows it. -/
theorem standsBefore_append {before after : List Operation} {id : Id} :
    StandsBefore (before ++ after) before.length id ↔ id ∈ before.map Operation.id := by
  rw [← standsBefore_length, standsBefore_iff, standsBefore_iff]
  exact exists_congr fun j => and_congr_right fun inside => standsAt_append inside

/-- The map leads each identifier of a list to its place in the list, and no other identifier
anywhere. -/
def Records (stored : Std.HashMap Id Nat) (before : List Operation) : Prop :=
  ∀ id j, stored[id]? = some j ↔ StandsAt before j id

variable {stored : Std.HashMap Id Nat} {before rest : List Operation} {operation : Operation}

theorem records_nil : Records ∅ [] := by
  intro id j
  simp [StandsAt]

namespace Records

theorem mem_iff (records : Records stored before) {id : Id} :
    id ∈ stored ↔ id ∈ before.map Operation.id := by
  rw [Std.HashMap.mem_iff_isSome_getElem?, Option.isSome_iff_exists, ← exists_standsAt_iff]
  exact exists_congr fun j => records id j

theorem insert (records : Records stored before)
    (fresh : operation.id ∉ before.map Operation.id) :
    Records (stored.insert operation.id before.length) (before ++ [operation]) := by
  intro id j
  rw [Std.HashMap.getElem?_insert, standsAt_concat]
  by_cases own : operation.id = id
  · subst own
    have nowhere : ¬StandsAt before j operation.id := fun stands =>
      fresh (exists_standsAt_iff.1 ⟨j, stands⟩)
    simp [nowhere, eq_comm]
  · simp [own, records id j]

/-- What is stored is what stands before the operation whose turn it is. -/
theorem mem_iff_standsBefore (records : Records stored before) {id : Id} :
    id ∈ stored ↔ StandsBefore (before ++ operation :: rest) before.length id := by
  rw [records.mem_iff, standsBefore_append]

theorem firstMissing?_eq_some_iff (records : Records stored before) {reference : Id} :
    firstMissing? stored operation.references = some reference ↔
      IsFirstUnresolved (before ++ operation :: rest) before.length reference := by
  have here : (before ++ operation :: rest)[before.length]? = some operation := by simp
  have missing (id : Id) : (!stored.contains id) = true ↔
      ¬StandsBefore (before ++ operation :: rest) before.length id := by
    rw [← records.mem_iff_standsBefore]
    simp
  have present (id : Id) : (!!stored.contains id) = true ↔
      StandsBefore (before ++ operation :: rest) before.length id := by
    rw [← records.mem_iff_standsBefore]
    simp
  simp only [firstMissing?, List.find?_eq_some_iff_append, missing, present]
  constructor
  · rintro ⟨unresolved, resolved, others, parts, all⟩
    exact ⟨operation, resolved, others, here, parts, all, unresolved⟩
  · rintro ⟨each, resolved, others, found, parts, all, unresolved⟩
    obtain rfl := Option.some.inj (here.symm.trans found)
    exact ⟨unresolved, resolved, others, parts, all⟩

end Records

/-- An operation that can be executed is passed over, and its place is stored. -/
theorem checkFrom_cons {known : Std.HashSet Id} (records : Records stored before)
    (within : ∀ id ∈ operation.references, id ∈ before.map Operation.id)
    (fresh : operation.id ∉ before.map Operation.id) (index : Nat) (rest : List Operation) :
    checkFrom known index stored (operation :: rest) =
      checkFrom known (index + 1) (stored.insert operation.id index) rest := by
  have complete : firstMissing? stored operation.references = none :=
    firstMissing?_eq_none_iff.2 fun id refers => records.mem_iff.2 (within id refers)
  have unused : stored[operation.id]? = none := by
    rw [← records.mem_iff, Std.HashMap.mem_iff_isSome_getElem?] at fresh
    exact Option.not_isSome_iff_eq_none.1 fresh
  rw [checkFrom, complete]
  dsimp only
  rw [unused]

/-- After operations that are ready, the check goes on with a map of their places. -/
theorem exists_checkFrom_append (known : Std.HashSet Id) (ready : IsReady [] before) :
    ∃ stored, Records stored before ∧ ∀ rest,
      checkFrom known 0 ∅ (before ++ rest) = checkFrom known before.length stored rest := by
  induction before using List.reverseRecOn with
  | nil => exact ⟨∅, records_nil, fun _ => rfl⟩
  | append_singleton before operation ih =>
    obtain ⟨readyBefore, within, fresh⟩ := isReady_concat.1 ready
    obtain ⟨stored, records, goesOn⟩ := ih readyBefore
    refine ⟨stored.insert operation.id before.length, records.insert fresh, fun rest => ?_⟩
    rw [List.append_assoc, goesOn, List.singleton_append, checkFrom_cons records within fresh,
      List.length_append, List.length_singleton]

/-- The check stops at an operation that cannot be executed, with a fault that holds there. -/
theorem exists_fault_of_stuck {known : Std.HashSet Id} (records : Records stored before)
    (all : ∀ id, id ∈ known ↔ ∃ j, StandsAt (before ++ operation :: rest) j id)
    (ready : IsReady [] before) (stuck : ¬IsReady [] (before ++ [operation])) :
    ∃ fault, checkFrom known before.length stored (operation :: rest) = .error fault ∧
      fault.index = before.length ∧ Holds (before ++ operation :: rest) fault := by
  have here : (before ++ operation :: rest)[before.length]? = some operation := by simp
  rw [checkFrom]
  cases missing : firstMissing? stored operation.references with
  | some reference =>
    have first : IsFirstUnresolved (before ++ operation :: rest) before.length reference :=
      records.firstMissing?_eq_some_iff.1 missing
    dsimp only
    split
    next listed =>
      refine ⟨_, rfl, rfl, .forward first ?_⟩
      obtain ⟨j, stands⟩ := (all reference).1 listed
      have notBefore : ¬j < before.length := fun less =>
        first.not_standsBefore (standsBefore_iff.2 ⟨j, less, stands⟩)
      exact ⟨j, Nat.le_of_not_lt notBefore, stands⟩
    next unlisted =>
      exact ⟨_, rfl, rfl, .unknown first fun j stands => unlisted ((all reference).2 ⟨j, stands⟩)⟩
  | none =>
    have within := firstMissing?_eq_none_iff.1 missing
    dsimp only
    cases found : stored[operation.id]? with
    | some place =>
      have stands := (records _ _).1 found
      have inside := stands.lt_length
      refine ⟨_, rfl, rfl, .duplicate here ?_ inside ((standsAt_append inside).2 stands) ?_⟩
      · exact fun id refers => records.mem_iff_standsBefore.1 (within id refers)
      · intro j less again
        rw [standsAt_append less, ← records, found] at again
        exact (Option.some.inj again).symm
    | none =>
      refine absurd (isReady_concat.2 ⟨ready, ?_, ?_⟩) stuck
      · exact fun id refers => records.mem_iff.1 (within id refers)
      · rw [← records.mem_iff, Std.HashMap.mem_iff_isSome_getElem?, found]
        exact Bool.false_ne_true

/-- The whole check stops at the first operation that cannot be executed. -/
theorem exists_checkOrder_eq_error (rest : List Operation) (ready : IsReady [] before)
    (stuck : ¬IsReady [] (before ++ [operation])) :
    ∃ fault, checkOrder (before ++ operation :: rest) = .error fault ∧
      fault.index = before.length ∧ Holds (before ++ operation :: rest) fault := by
  obtain ⟨stored, records, goesOn⟩ := exists_checkFrom_append
    (Std.HashSet.ofList ((before ++ operation :: rest).map Operation.id)) ready
  rw [checkOrder, goesOn]
  refine exists_fault_of_stuck records (fun id => ?_) ready stuck
  rw [exists_standsAt_iff, Std.HashSet.mem_ofList, List.contains_iff_mem]

/-- A list that is not ready has a first operation that cannot be executed. -/
theorem exists_first_stuck {operations : List Operation} (notReady : ¬IsReady [] operations) :
    ∃ before operation rest, operations = before ++ operation :: rest ∧ IsReady [] before ∧
      ¬IsReady [] (before ++ [operation]) := by
  induction operations using List.reverseRecOn with
  | nil => exact absurd trivial notReady
  | append_singleton operations last ih =>
    by_cases ready : IsReady [] operations
    · exact ⟨operations, last, [], rfl, ready, notReady⟩
    · obtain ⟨before, operation, rest, rfl, readyBefore, stuck⟩ := ih ready
      exact ⟨before, operation, rest ++ [last], by simp, readyBefore, stuck⟩

namespace Holds

variable {operations : List Operation} {fault : OrderFault}

/-- A fault is about an operation of the list. -/
theorem exists_split (holds : Holds operations fault) :
    ∃ before operation rest, operations = before ++ operation :: rest ∧
      before.length = fault.index := by
  have inside : fault.index < operations.length := by
    cases holds with
    | forward first => exact first.lt_length
    | unknown first => exact first.lt_length
    | duplicate here => exact (List.getElem?_eq_some_iff.1 here).1
  refine ⟨operations.take fault.index, operations[fault.index], operations.drop (fault.index + 1),
    ?_, ?_⟩
  · rw [← List.drop_eq_getElem_cons inside, List.take_append_drop]
  · rw [List.length_take, Nat.min_eq_left (Nat.le_of_lt inside)]

/-- Where a fault holds, the operation cannot be executed. -/
theorem stuck (holds : Holds (before ++ operation :: rest) fault)
    (index : fault.index = before.length) : ¬IsReady [] (before ++ [operation]) := by
  have here : (before ++ operation :: rest)[before.length]? = some operation := by simp
  intro ready
  obtain ⟨-, within, fresh⟩ := isReady_concat.1 ready
  cases holds with
  | forward first | unknown first =>
    obtain rfl : _ = before.length := index
    exact first.not_resolved here fun id refers => standsBefore_append.2 (within id refers)
  | duplicate found resolved less stands =>
    obtain rfl : _ = before.length := index
    obtain rfl := Option.some.inj (here.symm.trans found)
    exact fresh (exists_standsAt_iff.1 ⟨_, (standsAt_append less).1 stands⟩)

/-- At one index only one fault holds. -/
theorem unique (holds : Holds operations fault) {other : OrderFault}
    (alsoHolds : Holds operations other) (index : fault.index = other.index) : fault = other := by
  cases holds with
  | @forward i reference first later =>
    obtain ⟨j, -, stands⟩ := later
    cases alsoHolds with
    | forward first' =>
      obtain rfl : i = _ := index
      rw [first.unique first']
    | unknown first' nowhere =>
      obtain rfl : i = _ := index
      rw [first.unique first'] at stands
      exact absurd stands (nowhere j)
    | duplicate here resolved =>
      obtain rfl : i = _ := index
      exact absurd resolved (first.not_resolved here)
  | @unknown i reference first nowhere =>
    cases alsoHolds with
    | forward first' later =>
      obtain rfl : i = _ := index
      obtain ⟨j, -, stands⟩ := later
      rw [← first.unique first'] at stands
      exact absurd stands (nowhere j)
    | unknown first' =>
      obtain rfl : i = _ := index
      rw [first.unique first']
    | duplicate here resolved =>
      obtain rfl : i = _ := index
      exact absurd resolved (first.not_resolved here)
  | @duplicate i place operation here resolved less stands only =>
    cases alsoHolds with
    | forward first' | unknown first' =>
      obtain rfl : i = _ := index
      exact absurd resolved (first'.not_resolved here)
    | duplicate here' _ less' stands' =>
      obtain rfl : i = _ := index
      obtain rfl := Option.some.inj (here.symm.trans here')
      rw [only _ less' stands']

end Holds

/-- The check refuses a list with a fault exactly if it accepts all that stands before the index of
the fault, and the fault holds. -/
theorem checkOrder_eq_error_iff (operations : List Operation) (fault : OrderFault) :
    checkOrder operations = .error fault ↔
      checkOrder (operations.take fault.index) = .ok () ∧ Holds operations fault := by
  constructor
  · intro refused
    have notReady : ¬IsReady [] operations := by
      rw [← checkOrder_eq_ok_iff, refused]
      exact nofun
    obtain ⟨before, operation, rest, rfl, ready, stuck⟩ := exists_first_stuck notReady
    obtain ⟨found, stops, index, holds⟩ := exists_checkOrder_eq_error rest ready stuck
    obtain rfl := Except.error.inj (refused.symm.trans stops)
    rw [index, List.take_left, checkOrder_eq_ok_iff]
    exact ⟨ready, holds⟩
  · rintro ⟨accepted, holds⟩
    obtain ⟨before, operation, rest, rfl, index⟩ := holds.exists_split
    rw [← index, List.take_left, checkOrder_eq_ok_iff] at accepted
    obtain ⟨found, stops, sameIndex, alsoHolds⟩ :=
      exists_checkOrder_eq_error rest accepted (holds.stuck index.symm)
    rw [stops, alsoHolds.unique holds (sameIndex.trans index)]

end OperationOrder

end Stepwise
