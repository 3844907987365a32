import Mathlib.Data.List.Induction
import Stepwise.Json
import Stepwise.Json.Decode
import Stepwise.Proofs.Outcome

/-!
# Members of documents

The members of an object are a finite map that is written as a list. `Json.lookup?` is what can be
seen of the map, and each operation is described by what it does to it: setting a member changes
one key and no other (`Json.lookup?_setMember`), and putting members into ascending order lists
each key that can be found, with the value that is found under it (`Json.mem_ascending_iff`). Where
no key occurs twice (`Json.HasDistinctKeys`), what is found is what is written.
-/

namespace Stepwise.Json

variable {α : Type}

theorem lookup?_cons (key : String) (value : α) (rest : List (String × α)) (other : String) :
    lookup? ((key, value) :: rest) other =
      (lookup? rest other).or (if key = other then some value else none) := by
  rw [lookup?]
  cases lookup? rest other <;> rfl

@[simp] theorem lookup?_append (before after : List (String × α)) (key : String) :
    lookup? (before ++ after) key = (lookup? after key).or (lookup? before key) := by
  induction before with
  | nil => simp [lookup?]
  | cons member rest ih => rw [List.cons_append, lookup?_cons, lookup?_cons, ih, Option.or_assoc]

/-- Without the members of one key, all other keys are found as before. -/
@[simp] theorem lookup?_filter (members : List (String × α)) (key other : String) :
    lookup? (members.filter fun member => member.1 != key) other =
      if key = other then none else lookup? members other := by
  induction members with
  | nil => simp [lookup?]
  | cons member rest ih =>
    obtain ⟨k, v⟩ := member
    rw [List.filter_cons, lookup?_cons]
    by_cases dropped : k = key
    · subst dropped
      rw [if_neg (by simp), ih]
      by_cases here : k = other <;> simp [here]
    · rw [if_pos (by simpa using dropped), lookup?_cons, ih]
      by_cases here : key = other
      · simp [← here, dropped]
      · simp [here]

/-- Setting a member changes what is found under its key, and nothing else. -/
theorem lookup?_setMember (members : List (String × α)) (key : String) (value : α)
    (other : String) :
    lookup? (setMember members key value) other =
      if key = other then some value else lookup? members other := by
  induction members with
  | nil => simp [setMember, lookup?]
  | cons member rest ih =>
    obtain ⟨k, v⟩ := member
    rw [setMember, lookup?_cons]
    split
    next same =>
      rw [lookup?_cons, lookup?_filter]
      by_cases here : key = other <;> simp [here, same]
    next differs =>
      rw [lookup?_cons, ih]
      by_cases here : key = other <;> simp [here]

@[simp] theorem lookup?_setMember_self (members : List (String × α)) (key : String) (value : α) :
    lookup? (setMember members key value) key = some value := by
  rw [lookup?_setMember, if_pos rfl]

theorem lookup?_setMember_of_ne (members : List (String × α)) {key other : String} (value : α)
    (differ : other ≠ key) :
    lookup? (setMember members key value) other = lookup? members other := by
  rw [lookup?_setMember, if_neg differ.symm]

/-- Of two values that are set under one key, the second one stays, in the place of the first. -/
theorem setMember_setMember (members : List (String × α)) (key : String) (value last : α) :
    setMember (setMember members key value) key last = setMember members key last := by
  induction members with
  | nil => simp [setMember]
  | cons member rest ih =>
    obtain ⟨k, v⟩ := member
    by_cases same : k = key
    · simp [setMember, same]
    · simp [setMember, same, ih]

/-- The keys are in ascending order, so none of them occurs twice. -/
def IsAscending (members : List (String × α)) : Prop :=
  members.Pairwise fun first second => first.1 < second.1

theorem lt_of_not_lt {key other : String} (notLess : ¬key < other) (differ : key ≠ other) :
    other < key :=
  String.not_le.1 fun le => differ (String.le_antisymm le (String.not_lt.1 notLess))

/-- A key below the first one is below all of them. -/
theorem IsAscending.lt_all {first : String × α} {rest : List (String × α)}
    (ascends : IsAscending (first :: rest)) {key : String} (less : key < first.1) :
    ∀ member ∈ first :: rest, key < member.1 :=
  List.forall_mem_cons.2 ⟨less, fun member mem =>
    String.lt_trans less ((List.pairwise_cons.1 ascends).1 member mem)⟩

/-- The first of the keys with a property is the least of them. -/
theorem IsAscending.exists_first {members : List (String × α)} (ascends : IsAscending members)
    {p : String → Prop} (holds : ∃ member ∈ members, p member.1) :
    ∃ before first rest, members = before ++ first :: rest ∧
      (∀ member ∈ before, ¬p member.1) ∧ p first.1 ∧
      ∀ member ∈ members, p member.1 → first.1 ≤ member.1 := by
  induction members with
  | nil => simp at holds
  | cons head tail ih =>
    obtain ⟨least, ascendsTail⟩ := List.pairwise_cons.1 ascends
    by_cases here : p head.1
    · refine ⟨[], head, tail, rfl, nofun, here, List.forall_mem_cons.2 ⟨fun _ => ?_, ?_⟩⟩
      · exact String.le_refl _
      · exact fun member mem _ => String.not_lt.1 (String.lt_asymm (least member mem))
    · have later : ∃ member ∈ tail, p member.1 := by simpa [here] using holds
      obtain ⟨before, first, rest, rfl, noneBefore, isFirst, leastFirst⟩ := ih ascendsTail later
      refine ⟨head :: before, first, rest, rfl, List.forall_mem_cons.2 ⟨here, noneBefore⟩, isFirst,
        List.forall_mem_cons.2 ⟨fun headHolds => absurd headHolds here, leastFirst⟩⟩

/-- A key below all others is none of them, so leaving it out leaves nothing out. -/
theorem mem_and_ne_iff {members : List (String × α)} {key : String}
    (least : ∀ member ∈ members, key < member.1) {member : String × α} :
    member ∈ members ∧ member.1 ≠ key ↔ member ∈ members := by
  refine ⟨And.left, fun mem => ⟨mem, ?_⟩⟩
  rintro rfl
  exact String.lt_irrefl _ (least member mem)

/-- Under ascending keys, inserting a member replaces the one with its key. -/
theorem mem_insertMember_iff {members : List (String × α)} (ascends : IsAscending members)
    {key : String} {value : α} {member : String × α} :
    member ∈ insertMember key value members ↔
      member = (key, value) ∨ (member ∈ members ∧ member.1 ≠ key) := by
  induction members with
  | nil => simp [insertMember]
  | cons first rest ih =>
    obtain ⟨k, v⟩ := first
    obtain ⟨least, ascendsRest⟩ := List.pairwise_cons.1 ascends
    rw [insertMember]
    split
    next less => rw [List.mem_cons, mem_and_ne_iff (ascends.lt_all less)]
    next =>
      -- The first member is the one that goes if it has the key, and stays otherwise.
      split
      next same =>
        have goes : ¬(member = (k, v) ∧ member.1 ≠ key) := by
          rintro ⟨rfl, other⟩
          exact other same.symm
        subst same
        rw [List.mem_cons, List.mem_cons, or_and_right, or_iff_right goes, mem_and_ne_iff least]
      next differs =>
        have stays : member = (k, v) ∧ member.1 ≠ key ↔ member = (k, v) :=
          and_iff_left_of_imp (by rintro rfl; exact Ne.symm differs)
        rw [List.mem_cons, List.mem_cons, ih ascendsRest, or_and_right, stays, or_left_comm]

theorem isAscending_insertMember {members : List (String × α)} (ascends : IsAscending members)
    (key : String) (value : α) : IsAscending (insertMember key value members) := by
  induction members with
  | nil => simp [insertMember, IsAscending]
  | cons first rest ih =>
    obtain ⟨k, v⟩ := first
    obtain ⟨least, ascendsRest⟩ := List.pairwise_cons.1 ascends
    rw [insertMember]
    split
    next less => exact List.pairwise_cons.2 ⟨ascends.lt_all less, ascends⟩
    next notLess =>
      split
      next same => subst same; exact List.pairwise_cons.2 ⟨least, ascendsRest⟩
      next differs =>
        refine List.pairwise_cons.2 ⟨fun each mem => ?_, ih ascendsRest⟩
        rcases (mem_insertMember_iff ascendsRest).1 mem with rfl | ⟨inRest, -⟩
        · exact lt_of_not_lt notLess differs
        · exact least each inRest

theorem ascending_concat (members : List (String × α)) (key : String) (value : α) :
    ascending (members ++ [(key, value)]) = insertMember key value (ascending members) := by
  simp [ascending]

theorem isAscending_ascending (members : List (String × α)) : IsAscending (ascending members) := by
  induction members using List.reverseRecOn with
  | nil => exact List.Pairwise.nil
  | append_singleton members member ih =>
    rw [ascending_concat]
    exact isAscending_insertMember ih _ _

/-- In ascending order stand exactly the members that can be found. -/
theorem mem_ascending_iff {members : List (String × α)} {key : String} {value : α} :
    (key, value) ∈ ascending members ↔ lookup? members key = some value := by
  induction members using List.reverseRecOn with
  | nil => simp [ascending, lookup?]
  | append_singleton members member ih =>
    obtain ⟨k, v⟩ := member
    rw [ascending_concat, mem_insertMember_iff (isAscending_ascending members), ih, lookup?_append,
      lookup?_cons, lookup?, Option.none_or]
    by_cases here : k = key
    · subst here
      simp [eq_comm]
    · simp [here, Ne.symm here]

theorem lookup?_eq_none_iff {members : List (String × α)} {key : String} :
    lookup? members key = none ↔ key ∉ members.map Prod.fst := by
  induction members with
  | nil => simp [lookup?]
  | cons member rest ih =>
    rw [lookup?_cons, Option.or_eq_none_iff, ih, List.map_cons, List.mem_cons, not_or, and_comm]
    simp [eq_comm]

theorem mem_of_lookup? {members : List (String × α)} {key : String} {value : α}
    (found : lookup? members key = some value) : (key, value) ∈ members := by
  induction members with
  | nil => cases found
  | cons member rest ih =>
    rw [lookup?_cons, Option.or_eq_some_iff] at found
    rcases found with inRest | ⟨-, here⟩
    · exact List.mem_cons_of_mem _ (ih inRest)
    · obtain ⟨rfl, eq⟩ := Option.ite_none_right_eq_some.1 here
      obtain rfl := Option.some.inj eq
      exact List.mem_cons_self

/-- No key occurs twice. -/
def HasDistinctKeys (members : List (String × α)) : Prop :=
  (members.map Prod.fst).Nodup

theorem hasDistinctKeys_cons {key : String} {value : α} {rest : List (String × α)} :
    HasDistinctKeys ((key, value) :: rest) ↔ lookup? rest key = none ∧ HasDistinctKeys rest := by
  rw [lookup?_eq_none_iff]
  exact List.nodup_cons

theorem IsAscending.hasDistinctKeys {members : List (String × α)} (ascends : IsAscending members) :
    HasDistinctKeys members := by
  refine List.pairwise_map.2 (ascends.imp ?_)
  intro first second less same
  rw [same] at less
  exact String.lt_irrefl _ less

/-- Where no key occurs twice, every member is found. -/
theorem lookup?_eq_some_iff {members : List (String × α)} (distinct : HasDistinctKeys members)
    {key : String} {value : α} : lookup? members key = some value ↔ (key, value) ∈ members := by
  induction members with
  | nil => simp [lookup?]
  | cons member rest ih =>
    obtain ⟨k, v⟩ := member
    obtain ⟨absent, distinctRest⟩ := hasDistinctKeys_cons.1 distinct
    rw [lookup?_cons, List.mem_cons, ← ih distinctRest]
    by_cases here : k = key
    · subst here
      simp [absent, eq_comm]
    · simp [here, Ne.symm here]

/-- Order does not matter for what is found. -/
@[simp] theorem lookup?_ascending (members : List (String × α)) (key : String) :
    lookup? (ascending members) key = lookup? members key := by
  apply Option.ext
  intro value
  rw [lookup?_eq_some_iff (isAscending_ascending members).hasDistinctKeys, mem_ascending_iff]

/-- Setting a member repeats no key. -/
theorem HasDistinctKeys.setMember {members : List (String × α)} (distinct : HasDistinctKeys members)
    (key : String) (value : α) : HasDistinctKeys (setMember members key value) := by
  induction members with
  | nil => exact List.pairwise_singleton _ _
  | cons member rest ih =>
    obtain ⟨k, v⟩ := member
    obtain ⟨absent, distinctRest⟩ := hasDistinctKeys_cons.1 distinct
    rw [Json.setMember]
    split
    next =>
      refine hasDistinctKeys_cons.2 ⟨?_, ?_⟩
      · rw [lookup?_filter, if_pos rfl]
      · exact distinctRest.sublist (List.filter_sublist.map _)
    next differs =>
      refine hasDistinctKeys_cons.2 ⟨?_, ih distinctRest⟩
      rwa [lookup?_setMember_of_ne _ _ differs]

end Stepwise.Json

/-!
## What decoders accept

Each way to combine decoders is characterised by what it takes to succeed, so that the decoder of a
record opens into one condition for each of its members.
-/

namespace Stepwise.Decode

variable {α : Type} {decoder : Decoder α}

theorem member?_eq_some_iff {members : List (String × Json)} {key : String} {value : α} :
    member? members key decoder = .ok (some value) ↔
      ∃ found, Json.lookup? members key = some found ∧ decoder found = .ok value := by
  unfold member?
  cases Json.lookup? members key with
  | none => simp
  | some found => simp [map_eq_ok_iff]

theorem required_eq_ok_iff {key : String} {found : Option α} {value : α} :
    required key found = .ok value ↔ found = some value := by
  cases found <;> simp [required]

theorem item_eq_ok_iff {whole : String} {items : List Json} {index : Nat} {value : α} :
    item whole items index decoder = .ok value ↔
      ∃ found, items[index]? = some found ∧ decoder found = .ok value := by
  unfold item
  cases items[index]? <;> simp

theorem noMore_eq_ok_iff {items : List Json} {count : Nat} :
    noMore items count = .ok () ↔ items.length ≤ count := by
  simp [noMore]

theorem list_eq_ok_iff {document : Json} {values : List α} :
    list decoder document = .ok values ↔ ∃ items, document = .array items ∧
      List.Forall₂ (fun item value => decoder item = .ok value) items values := by
  cases document <;> simp [list, mapM_eq_ok_iff]

/-- Each value of a list was accepted. -/
theorem exists_of_mem_list {document : Json} {values : List α}
    (h : list decoder document = .ok values) {value : α} (mem : value ∈ values) :
    ∃ item, decoder item = .ok value := by
  obtain ⟨items, -, read⟩ := list_eq_ok_iff.1 h
  clear h
  induction read with
  | nil => cases mem
  | @cons item first _ _ accepted _ ih =>
    rcases List.mem_cons.1 mem with rfl | inRest
    · exact ⟨item, accepted⟩
    · exact ih inRest

end Stepwise.Decode
