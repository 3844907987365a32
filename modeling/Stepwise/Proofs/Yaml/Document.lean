import Stepwise.Yaml.Document

/-!
# Documents are read to their end

The eight readers of nodes count down a number that only bounds the recursion. None of them leaves
more symbols than it is given (`allNeverGrow`), so the number that `content?` starts from is never
used up: each larger one gives the same node, or none as well (`content?_eq_add`).
-/

namespace Stepwise.Yaml

/-! ### What is left of the symbols -/

/-- The reader leaves no more symbols than it is given. -/
def NeverGrows {α : Type} (reader : List Symbol → Option (α × List Symbol)) : Prop :=
  ∀ ⦃symbols x rest⦄, reader symbols = some (x, rest) → rest.length ≤ symbols.length

theorem neverGrows_key? (ends : List Symbol) : NeverGrows (key? ends) := by
  intro symbols text rest h
  unfold key? at h
  split at h
  next =>
    cases h
    exact Nat.le_refl _
  next =>
    split at h
    next =>
      cases h
      exact Nat.le_succ _
    next => cases h

/-- None of the readers leaves more symbols than it is given. -/
structure AllNeverGrow (fuel : Nat) : Prop where
  value : ∀ depth place, NeverGrows (value? fuel depth place)
  items : ∀ depth done, NeverGrows (items? fuel depth done)
  looseItems : ∀ depth done, NeverGrows (looseItems? fuel depth done)
  members : ∀ depth done, NeverGrows (members? fuel depth done)
  flowItems : ∀ depth done, NeverGrows (flowItems? fuel depth done)
  pair : ∀ depth, NeverGrows (pair? fuel depth)
  flowMembers : ∀ depth done, NeverGrows (flowMembers? fuel depth done)
  flowMembersAfter : ∀ depth done, NeverGrows (flowMembersAfter? fuel depth done)

namespace AllNeverGrow

variable {fuel : Nat} (inner : AllNeverGrow fuel)

include inner

theorem value_succ (depth : Nat) (place : Place) :
    NeverGrows (value? (fuel + 1) depth place) := by
  intro symbols node rest h
  unfold value? at h
  split at h
  next =>
    cases h
    exact Nat.le_succ _
  next =>
    split at h
    · cases h
    · exact Nat.le_succ_of_le (inner.items _ _ h)
  next =>
    split at h
    · exact inner.looseItems _ _ h
    · cases h
  next =>
    split at h
    · cases h
    · exact Nat.le_succ_of_le (inner.members _ _ h)
  next => exact Nat.le_succ_of_le (inner.flowItems _ _ h)
  next => exact Nat.le_succ_of_le (inner.flowMembers _ _ h)
  next => cases h

theorem items_succ (depth : Nat) (done : List Node) :
    NeverGrows (items? (fuel + 1) depth done) := by
  intro symbols node rest h
  unfold items? at h
  split at h
  next =>
    cases h
    exact Nat.le_succ _
  next =>
    split at h
    · exact Nat.le_succ_of_le (inner.items _ _ h)
    · split at h
      next read =>
        exact Nat.le_succ_of_le (Nat.le_trans (inner.items _ _ h) (inner.value _ _ read))
      next => cases h
  next => cases h

theorem looseItems_succ (depth : Nat) (done : List Node) :
    NeverGrows (looseItems? (fuel + 1) depth done) := by
  intro symbols node rest h
  unfold looseItems? at h
  split at h
  next =>
    split at h
    · exact Nat.le_succ_of_le (inner.looseItems _ _ h)
    · split at h
      next read =>
        exact Nat.le_succ_of_le (Nat.le_trans (inner.looseItems _ _ h) (inner.value _ _ read))
      next => cases h
  next =>
    cases h
    exact Nat.le_refl _

theorem members_succ (depth : Nat) (done : List (String × Node)) :
    NeverGrows (members? (fuel + 1) depth done) := by
  intro symbols node rest h
  unfold members? at h
  split at h
  next =>
    cases h
    exact Nat.le_succ _
  next =>
    split at h
    next => cases h
    next key =>
      have := neverGrows_key? _ key
      simp only [List.length_cons] at this ⊢
      split at h
      · have := inner.members _ _ h
        omega
      · split at h
        next read =>
          have := inner.value _ _ read
          have := inner.members _ _ h
          omega
        next => cases h
    next key =>
      exact Nat.le_succ_of_le (Nat.le_trans (inner.members _ _ h) (neverGrows_key? _ key))
  next => cases h

theorem flowItems_succ (depth : Nat) (done : List Node) :
    NeverGrows (flowItems? (fuel + 1) depth done) := by
  intro symbols node rest h
  unfold flowItems? at h
  split at h
  next =>
    cases h
    exact Nat.le_succ _
  next =>
    split at h
    next read =>
      have := inner.pair _ read
      have := inner.flowItems _ _ h
      simp only [List.length_cons] at *
      omega
    next read =>
      cases h
      exact Nat.le_succ_of_le (Nat.le_of_succ_le (inner.pair _ read))
    next => cases h
  next =>
    split at h
    next read =>
      exact Nat.le_trans (inner.flowItems _ _ h) (Nat.le_of_succ_le (inner.value _ _ read))
    next read =>
      cases h
      exact Nat.le_of_succ_le (inner.value _ _ read)
    next => cases h

theorem pair_succ (depth : Nat) : NeverGrows (pair? (fuel + 1) depth) := by
  intro symbols node rest h
  cases depth with
  | zero => simp [pair?] at h
  | succ depth =>
    unfold pair? at h
    split at h
    next =>
      split at h
      · cases h
        exact Nat.le_succ_of_le (Nat.le_succ _)
      · split at h
        next read =>
          cases h
          exact Nat.le_succ_of_le (Nat.le_succ_of_le (inner.value _ _ read))
        next => cases h
    next =>
      cases h
      exact Nat.le_succ _
    next => cases h

theorem flowMembers_succ (depth : Nat) (done : List (String × Node)) :
    NeverGrows (flowMembers? (fuel + 1) depth done) := by
  intro symbols node rest h
  unfold flowMembers? at h
  split at h
  next =>
    cases h
    exact Nat.le_succ _
  next => exact Nat.le_succ_of_le (inner.flowMembersAfter _ _ h)
  next =>
    split at h
    next => cases h
    next key =>
      have := neverGrows_key? _ key
      simp only [List.length_cons] at this ⊢
      split at h
      · have := inner.flowMembersAfter _ _ h
        omega
      · split at h
        next read =>
          have := inner.value _ _ read
          have := inner.flowMembersAfter _ _ h
          omega
        next => cases h
    next key =>
      exact Nat.le_succ_of_le
        (Nat.le_trans (inner.flowMembersAfter _ _ h) (neverGrows_key? _ key))
  next => cases h

theorem flowMembersAfter_succ (depth : Nat) (done : List (String × Node)) :
    NeverGrows (flowMembersAfter? (fuel + 1) depth done) := by
  intro symbols node rest h
  unfold flowMembersAfter? at h
  split at h
  next => exact Nat.le_succ_of_le (inner.flowMembers _ _ h)
  next =>
    cases h
    exact Nat.le_succ _
  next => cases h

end AllNeverGrow

theorem allNeverGrow (fuel : Nat) : AllNeverGrow fuel := by
  induction fuel with
  | zero =>
    constructor <;> intros <;> intro symbols x rest h
    all_goals
      simp [value?, items?, looseItems?, members?, flowItems?, pair?, flowMembers?,
        flowMembersAfter?] at h
  | succ fuel ih =>
    exact ⟨ih.value_succ, ih.items_succ, ih.looseItems_succ, ih.members_succ, ih.flowItems_succ,
      ih.pair_succ, ih.flowMembers_succ, ih.flowMembersAfter_succ⟩

/-! ### The number that bounds the recursion -/

/-- The readers do the same with symbols that are few enough for a number. Each symbol may open a
list, an item and its value, so a symbol counts three times; `more` is needed even without any. -/
def AgreeWithin (fuel more : Nat) (reader reader' : List Symbol → Option (Node × List Symbol)) :
    Prop :=
  ∀ symbols, 3 * symbols.length + more ≤ fuel → reader symbols = reader' symbols

/-- For symbols that are few enough, a number that is larger by one changes nothing. -/
structure IsSteady (fuel : Nat) : Prop where
  value : ∀ depth place, AgreeWithin fuel 2 (value? (fuel + 1) depth place)
    (value? fuel depth place)
  items : ∀ depth done, AgreeWithin fuel 1 (items? (fuel + 1) depth done) (items? fuel depth done)
  looseItems : ∀ depth done, AgreeWithin fuel 1 (looseItems? (fuel + 1) depth done)
    (looseItems? fuel depth done)
  members : ∀ depth done, AgreeWithin fuel 1 (members? (fuel + 1) depth done)
    (members? fuel depth done)
  flowItems : ∀ depth done, AgreeWithin fuel 3 (flowItems? (fuel + 1) depth done)
    (flowItems? fuel depth done)
  pair : ∀ depth, AgreeWithin fuel 1 (pair? (fuel + 1) depth) (pair? fuel depth)
  flowMembers : ∀ depth done, AgreeWithin fuel 1 (flowMembers? (fuel + 1) depth done)
    (flowMembers? fuel depth done)
  flowMembersAfter : ∀ depth done, AgreeWithin fuel 1 (flowMembersAfter? (fuel + 1) depth done)
    (flowMembersAfter? fuel depth done)

namespace IsSteady

variable {fuel : Nat} (inner : IsSteady fuel)

include inner

theorem value_succ (depth : Nat) (place : Place) :
    AgreeWithin (fuel + 1) 2 (value? (fuel + 2) depth place) (value? (fuel + 1) depth place) := by
  intro symbols enough
  unfold value?
  split
  next => rfl
  next rest depth =>
    simp only [List.length_cons] at enough
    rw [inner.items _ _ rest (by omega)]
  next => rw [inner.looseItems _ _ _ (by omega)]
  next rest depth =>
    simp only [List.length_cons] at enough
    rw [inner.members _ _ rest (by omega)]
  next rest depth =>
    simp only [List.length_cons] at enough
    exact inner.flowItems _ _ rest (by omega)
  next rest depth =>
    simp only [List.length_cons] at enough
    exact inner.flowMembers _ _ rest (by omega)
  next => rfl

theorem items_succ (depth : Nat) (done : List Node) :
    AgreeWithin (fuel + 1) 1 (items? (fuel + 2) depth done) (items? (fuel + 1) depth done) := by
  intro symbols enough
  unfold items?
  split
  next => rfl
  next rest =>
    simp only [List.length_cons] at enough
    rw [inner.items _ _ rest (by omega), inner.value _ _ rest (by omega)]
    split
    · rfl
    · split
      next left read =>
        have := (allNeverGrow fuel).value _ _ read
        exact inner.items _ _ left (by omega)
      next => rfl
  next => rfl

theorem looseItems_succ (depth : Nat) (done : List Node) :
    AgreeWithin (fuel + 1) 1 (looseItems? (fuel + 2) depth done)
      (looseItems? (fuel + 1) depth done) := by
  intro symbols enough
  unfold looseItems?
  split
  next rest =>
    simp only [List.length_cons] at enough
    rw [inner.looseItems _ _ rest (by omega), inner.value _ _ rest (by omega)]
    split
    · rfl
    · split
      next left read =>
        have := (allNeverGrow fuel).value _ _ read
        exact inner.looseItems _ _ left (by omega)
      next => rfl
  next => rfl

theorem members_succ (depth : Nat) (done : List (String × Node)) :
    AgreeWithin (fuel + 1) 1 (members? (fuel + 2) depth done) (members? (fuel + 1) depth done) := by
  intro symbols enough
  unfold members?
  split
  next => rfl
  next rest =>
    simp only [List.length_cons] at enough
    split
    next => rfl
    next after key =>
      have := neverGrows_key? _ key
      simp only [List.length_cons] at this
      rw [inner.members _ _ after (by omega), inner.value _ _ after (by omega)]
      split
      · rfl
      · split
        next left read =>
          have := (allNeverGrow fuel).value _ _ read
          exact inner.members _ _ left (by omega)
        next => rfl
    next after _ key =>
      have := neverGrows_key? _ key
      exact inner.members _ _ after (by omega)
  next => rfl

theorem flowItems_succ (depth : Nat) (done : List Node) :
    AgreeWithin (fuel + 1) 3 (flowItems? (fuel + 2) depth done)
      (flowItems? (fuel + 1) depth done) := by
  intro symbols enough
  unfold flowItems?
  split
  next => rfl
  next rest =>
    simp only [List.length_cons] at enough
    rw [inner.pair _ rest (by omega)]
    split
    next left read =>
      have := (allNeverGrow fuel).pair _ read
      simp only [List.length_cons] at this
      exact inner.flowItems _ _ left (by omega)
    all_goals rfl
  next =>
    rw [inner.value _ _ symbols (by omega)]
    split
    next left read =>
      have := (allNeverGrow fuel).value _ _ read
      simp only [List.length_cons] at this
      exact inner.flowItems _ _ left (by omega)
    all_goals rfl

theorem pair_succ (depth : Nat) :
    AgreeWithin (fuel + 1) 1 (pair? (fuel + 2) depth) (pair? (fuel + 1) depth) := by
  intro symbols enough
  cases depth with
  | zero => simp [pair?]
  | succ depth =>
    unfold pair?
    split
    next rest =>
      simp only [List.length_cons] at enough
      rw [inner.value _ _ rest (by omega)]
    all_goals rfl

theorem flowMembers_succ (depth : Nat) (done : List (String × Node)) :
    AgreeWithin (fuel + 1) 1 (flowMembers? (fuel + 2) depth done)
      (flowMembers? (fuel + 1) depth done) := by
  intro symbols enough
  unfold flowMembers?
  split
  next => rfl
  next rest =>
    simp only [List.length_cons] at enough
    exact inner.flowMembersAfter _ _ rest (by omega)
  next rest =>
    simp only [List.length_cons] at enough
    split
    next => rfl
    next after key =>
      have := neverGrows_key? _ key
      simp only [List.length_cons] at this
      rw [inner.flowMembersAfter _ _ after (by omega), inner.value _ _ after (by omega)]
      split
      · rfl
      · split
        next left read =>
          have := (allNeverGrow fuel).value _ _ read
          exact inner.flowMembersAfter _ _ left (by omega)
        next => rfl
    next after _ key =>
      have := neverGrows_key? _ key
      exact inner.flowMembersAfter _ _ after (by omega)
  next => rfl

theorem flowMembersAfter_succ (depth : Nat) (done : List (String × Node)) :
    AgreeWithin (fuel + 1) 1 (flowMembersAfter? (fuel + 2) depth done)
      (flowMembersAfter? (fuel + 1) depth done) := by
  intro symbols enough
  unfold flowMembersAfter?
  split
  next rest =>
    simp only [List.length_cons] at enough
    exact inner.flowMembers _ _ rest (by omega)
  all_goals rfl

end IsSteady

theorem isSteady (fuel : Nat) : IsSteady fuel := by
  induction fuel with
  | zero => constructor <;> intros <;> intro symbols enough <;> omega
  | succ fuel ih =>
    exact ⟨ih.value_succ, ih.items_succ, ih.looseItems_succ, ih.members_succ, ih.flowItems_succ,
      ih.pair_succ, ih.flowMembers_succ, ih.flowMembersAfter_succ⟩

theorem value?_eq_of_le {depth : Nat} {place : Place} {symbols : List Symbol} {fuel : Nat}
    (enough : 3 * symbols.length + 2 ≤ fuel) :
    value? fuel depth place symbols = value? (3 * symbols.length + 2) depth place symbols := by
  induction enough with
  | refl => rfl
  | step enough ih => exact ((isSteady _).value depth place symbols enough).trans ih

/-- The value of a document with a larger number than the one that `content?` starts from. -/
theorem content?_eq_add (more : Nat) (symbols : List Symbol) :
    content? symbols =
      match symbols with
      | [] => some (.missing, [])
      | .documentStart :: rest =>
        if isMissing [.documentStart, .documentEnd] rest then some (.missing, rest)
        else value? (3 * rest.length + 3 + more) maxDepth .item rest
      | _ => value? (3 * symbols.length + 3 + more) maxDepth .item symbols := by
  have steady (rest : List Symbol) : value? (3 * rest.length + 3) maxDepth .item rest =
      value? (3 * rest.length + 3 + more) maxDepth .item rest :=
    (value?_eq_of_le (Nat.le_succ _)).trans (value?_eq_of_le (by omega)).symm
  simp only [← steady]
  rfl

end Stepwise.Yaml
