import Stepwise.Proofs.Outcome
import Stepwise.Settings.Inline

/-!
# Values on one line are read to their end

The readers of values, lists and mappings count down a number that only bounds the recursion. No
reader leaves more text than it is given (`allNeverGrow`), so the number that `Inline.read` starts
from is never used up: each larger one gives the same value or the same fault (`read_eq_of_le`). In
particular no line is taken for plain text because the number is too small.
-/

namespace Stepwise.Settings.Inline

/-! ### What is left of a text -/

/-- The reader leaves no more text than it is given. -/
def NeverGrows {α : Type} (reader : List Char → Reading α) : Prop :=
  ∀ ⦃cs x rest⦄, reader cs = .ok (x, rest) → rest.length ≤ cs.length

theorem length_skipLayout_le (cs : List Char) : (skipLayout cs).length ≤ cs.length :=
  (List.dropWhile_sublist _).length_le

theorem length_le_of_quotation? {done cs written rest : List Char}
    (h : quotation? done cs = some (written, rest)) : rest.length ≤ cs.length := by
  fun_induction quotation? done cs with
  | case1 => cases h
  | case2 =>
    cases h
    exact Nat.le_succ _
  | case3 done c cs ih =>
    have := ih h
    simp only [List.length_cons]
    omega
  | case4 done c cs _ _ ih => exact Nat.le_succ_of_le (ih h)

theorem neverGrows_quotedRest : NeverGrows quotedRest := by
  intro cs text rest h
  unfold quotedRest at h
  split at h
  next written after found =>
    obtain ⟨_, -, eq⟩ := map_eq_ok_iff.1 h
    cases eq
    exact length_le_of_quotation? found
  next => cases h

theorem neverGrows_key : NeverGrows key := by
  intro cs name rest h
  unfold key at h
  split at h
  next => exact Nat.le_succ_of_le (neverGrows_quotedRest h)
  next =>
    split at h
    · cases h
    · cases h
      exact (List.dropWhile_sublist _).length_le

/-- A key and the character after it take up some of the text. -/
theorem length_lt_of_key {cs rest : List Char} {name : String} {c : Char}
    (h : ((key (skipLayout cs)).map fun (key, rest) => (key, skipLayout rest)) =
      .ok (name, c :: rest)) : rest.length < cs.length := by
  obtain ⟨⟨_, after⟩, read, eq⟩ := map_eq_ok_iff.1 h
  obtain ⟨-, left⟩ := Prod.mk.inj eq
  have := congrArg List.length left
  have := neverGrows_key read
  have := length_skipLayout_le cs
  have := length_skipLayout_le after
  simp only [List.length_cons] at *
  omega

theorem neverGrows_valueWith {items members : List Char → Reading Json} (ofItems : NeverGrows items)
    (ofMembers : NeverGrows members) : NeverGrows (valueWith items members) := by
  intro cs value rest h
  unfold valueWith at h
  split at h
  next =>
    cases h
    simp only [List.length_cons]
    omega
  next =>
    cases h
    simp only [List.length_cons]
    omega
  next =>
    obtain ⟨⟨text, after⟩, read, eq⟩ := map_eq_ok_iff.1 h
    cases eq
    exact Nat.le_succ_of_le (neverGrows_quotedRest read)
  next =>
    split at h
    · cases h
      simp only [List.length_cons]
      omega
    · cases h
  next => exact Nat.le_succ_of_le (ofItems h)
  next => exact Nat.le_succ_of_le (ofMembers h)
  next =>
    cases h
    exact (List.dropWhile_sublist _).length_le

/-- None of the readers leaves more text than it is given. -/
structure AllNeverGrow (fuel : Nat) : Prop where
  value : NeverGrows (value fuel)
  items : ∀ done, NeverGrows (items fuel done)
  members : ∀ done, NeverGrows (members fuel done)

namespace AllNeverGrow

variable {fuel : Nat} (inner : AllNeverGrow fuel)

include inner

theorem value_succ : NeverGrows (Inline.value (fuel + 1)) := by
  intro cs x rest h
  obtain ⟨⟨_, after⟩, read, eq⟩ := map_eq_ok_iff.1 h
  cases eq
  have := neverGrows_valueWith (inner.items []) (inner.members []) read
  have := length_skipLayout_le cs
  have := length_skipLayout_le after
  omega

theorem items_succ (done : List Json) : NeverGrows (Inline.items (fuel + 1) done) := by
  intro cs x rest h
  unfold Inline.items at h
  split at h
  next =>
    cases h
    exact Nat.le_succ _
  next =>
    split at h
    next item after read =>
      have := inner.value read
      have := inner.items _ h
      simp only [List.length_cons] at *
      omega
    next item after read =>
      cases h
      exact Nat.le_of_succ_le (inner.value read)
    next => cases h
    next => cases h

theorem members_succ (done : List (String × Json)) :
    NeverGrows (Inline.members (fuel + 1) done) := by
  intro cs x rest h
  unfold Inline.members at h
  split at h
  next =>
    cases h
    exact Nat.le_succ _
  next =>
    split at h
    next name after read =>
      have := length_lt_of_key read
      split at h
      next item left ofKey =>
        have := inner.value ofKey
        have := inner.members _ h
        simp only [List.length_cons] at *
        omega
      next item left ofKey =>
        cases h
        have := inner.value ofKey
        simp only [List.length_cons] at *
        omega
      next => cases h
      next => cases h
    next => cases h
    next => cases h

end AllNeverGrow

theorem allNeverGrow (fuel : Nat) : AllNeverGrow fuel := by
  induction fuel with
  | zero => exact ⟨nofun, fun _ => nofun, fun _ => nofun⟩
  | succ fuel ih => exact ⟨ih.value_succ, ih.items_succ, ih.members_succ⟩

/-! ### The number that bounds the recursion -/

/-- A value depends on the readers of lists and mappings only through shorter texts. -/
theorem valueWith_congr {items items' members members' : List Char → Reading Json} {cs : List Char}
    (sameItems : ∀ rest, rest.length < cs.length → items rest = items' rest)
    (sameMembers : ∀ rest, rest.length < cs.length → members rest = members' rest) :
    valueWith items members cs = valueWith items' members' cs := by
  unfold valueWith
  split <;> try rfl
  next rest => exact sameItems rest (Nat.lt_succ_self _)
  next rest => exact sameMembers rest (Nat.lt_succ_self _)

/-- A larger number changes nothing for texts that are short enough. Each character may open a list
or a mapping and the value that it is, so a character counts twice. -/
structure IsSteady (fuel : Nat) : Prop where
  value : ∀ cs, 2 * cs.length + 1 ≤ fuel → value (fuel + 1) cs = value fuel cs
  items : ∀ done cs, 2 * cs.length + 2 ≤ fuel → items (fuel + 1) done cs = items fuel done cs
  members : ∀ done cs, 2 * cs.length + 2 ≤ fuel →
    members (fuel + 1) done cs = members fuel done cs

namespace IsSteady

variable {fuel : Nat} (inner : IsSteady fuel)

include inner

theorem value_succ (cs : List Char) (enough : 2 * cs.length + 1 ≤ fuel + 1) :
    Inline.value (fuel + 2) cs = Inline.value (fuel + 1) cs := by
  have := length_skipLayout_le cs
  rw [Inline.value, Inline.value,
    valueWith_congr (fun rest less => inner.items [] rest (by omega))
      (fun rest less => inner.members [] rest (by omega))]

theorem items_succ (done : List Json) (cs : List Char) (enough : 2 * cs.length + 2 ≤ fuel + 1) :
    Inline.items (fuel + 2) done cs = Inline.items (fuel + 1) done cs := by
  unfold Inline.items
  rw [inner.value cs (by omega)]
  split
  next => rfl
  next =>
    split
    next item after read =>
      have := (allNeverGrow fuel).value read
      simp only [List.length_cons] at this
      exact inner.items _ _ (by omega)
    all_goals rfl

theorem members_succ (done : List (String × Json)) (cs : List Char)
    (enough : 2 * cs.length + 2 ≤ fuel + 1) :
    Inline.members (fuel + 2) done cs = Inline.members (fuel + 1) done cs := by
  unfold Inline.members
  split
  next => rfl
  next =>
    split
    next name after read =>
      have := length_lt_of_key read
      rw [inner.value after (by omega)]
      split
      next item left ofKey =>
        have := (allNeverGrow fuel).value ofKey
        simp only [List.length_cons] at this
        exact inner.members _ _ (by omega)
      all_goals rfl
    all_goals rfl

end IsSteady

theorem isSteady (fuel : Nat) : IsSteady fuel := by
  induction fuel with
  | zero => constructor <;> (intros; omega)
  | succ fuel ih => exact ⟨ih.value_succ, ih.items_succ, ih.members_succ⟩

theorem value_eq_of_le {cs : List Char} {fuel : Nat} (enough : 2 * cs.length + 1 ≤ fuel) :
    value fuel cs = value (2 * cs.length + 1) cs := by
  induction enough with
  | refl => rfl
  | step enough ih => exact ((isSteady _).value cs enough).trans ih

/-- The value of a line with any number that is at least as large as the one that `read` starts
from. -/
theorem read_eq_of_le {text : String} {fuel : Nat} (enough : 2 * text.toList.length + 2 ≤ fuel) :
    read text =
      match value fuel text.toList with
      | .ok (value, []) => some value
      | .error .splitCharacter => none
      | _ => some (.string text) := by
  have same : value (2 * text.toList.length + 2) text.toList = value fuel text.toList :=
    (value_eq_of_le (Nat.le_succ _)).trans (value_eq_of_le (Nat.le_of_succ_le enough)).symm
  rw [← same]
  rfl

end Stepwise.Settings.Inline
