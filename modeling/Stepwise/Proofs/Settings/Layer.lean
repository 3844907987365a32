import Stepwise.Json
import Stepwise.Proofs.Json.Members
import Stepwise.Settings.Load

/-!
# What layers come to

A layer is merged into what lies under it path by path. Where the layer has a value, that value is
merged into the one below (`Settings.at?_merge_of_found`); where it has none, the one below shows
through, unless something that is no object stands on the way (`Settings.at?_merge_of_open`). Both
need that no object on the path has a key twice, since members are merged one after another.
-/

namespace Stepwise

open Json (lookup? HasDistinctKeys hasDistinctKeys_cons lookup?_setMember_self
  lookup?_setMember_of_ne)

namespace Json

/-- No object on a path has a key twice. -/
def IsTidy : List String → Json → Prop
  | key :: path, .object members =>
    HasDistinctKeys members ∧ ∀ inner, lookup? members key = some inner → IsTidy path inner
  | _, _ => True

/-- Nothing but objects stands on the way along a path, and no object there has a key twice. -/
def IsOpen : List String → Json → Prop
  | [], _ => True
  | key :: path, .object members =>
    HasDistinctKeys members ∧ ∀ inner, lookup? members key = some inner → IsOpen path inner
  | _ :: _, _ => False

theorem IsOpen.isTidy {path : List String} {document : Json} (h : IsOpen path document) :
    IsTidy path document := by
  induction path generalizing document with
  | nil => trivial
  | cons key path ih =>
    cases document with
    | object members => exact ⟨h.1, fun inner found => ih (h.2 inner found)⟩
    | _ => trivial

theorem IsOpen.of_append {path more : List String} {document : Json}
    (h : IsOpen (path ++ more) document) : IsOpen path document := by
  induction path generalizing document with
  | nil => trivial
  | cons key path ih =>
    cases document with
    | object members => exact ⟨h.1, fun inner found => ih (h.2 inner found)⟩
    | _ => exact h.elim

theorem IsOpen.inside {path more : List String} {document inner : Json}
    (h : IsOpen (path ++ more) document) (found : document.at? path = some inner) :
    IsOpen more inner := by
  induction path generalizing document with
  | nil =>
    obtain rfl := Option.some.inj found
    exact h
  | cons key path ih =>
    obtain ⟨next, member, foundInside⟩ := Option.bind_eq_some_iff.1 found
    obtain ⟨members, rfl, present⟩ := member?_eq_some_iff.1 member
    exact ih (h.2 next present) foundInside

end Json

namespace Settings

/-- A value over what may lie under it. -/
def laidOver (under : Option Json) (value : Json) : Json :=
  match under with
  | some under => merge under value
  | none => value

/-- An integer that comes out is the one that lies on top. -/
theorem eq_int_of_laidOver {under : Option Json} {value : Json} {n : Int}
    (h : laidOver under value = .int n) : value = .int n := by
  cases under with
  | none => exact h
  | some under =>
    cases value with
    | object members => cases h
    | _ => exact h

theorem lookup?_mergeMembers (base : List (String × Json)) {members : List (String × Json)}
    (distinct : HasDistinctKeys members) (key : String) :
    lookup? (mergeMembers base members) key =
      match lookup? members key with
      | some value => some (laidOver (lookup? base key) value)
      | none => lookup? base key := by
  induction members generalizing base with
  | nil => rfl
  | cons member rest ih =>
    obtain ⟨k, v⟩ := member
    obtain ⟨absent, distinctRest⟩ := hasDistinctKeys_cons.1 distinct
    rw [mergeMembers, ih _ distinctRest, Json.lookup?_cons]
    by_cases here : k = key
    · subst here
      rw [absent, lookup?_setMember_self, if_pos rfl]
      rfl
    · rw [lookup?_setMember_of_ne _ _ (Ne.symm here), if_neg here, Option.or_none]

theorem member?_merge (base : Json) {members : List (String × Json)}
    (distinct : HasDistinctKeys members) (key : String) :
    (merge base (.object members)).member? key =
      match lookup? members key with
      | some value => some (laidOver (base.member? key) value)
      | none => base.member? key := by
  have under : lookup? (base.members?.getD []) key = base.member? key := by
    cases base <;> rfl
  rw [merge, ← under]
  exact lookup?_mergeMembers _ distinct key

theorem hasDistinctKeys_mergeMembers {base : List (String × Json)} (distinct : HasDistinctKeys base)
    (members : List (String × Json)) : HasDistinctKeys (mergeMembers base members) := by
  induction members generalizing base with
  | nil => exact distinct
  | cons member rest ih =>
    rw [mergeMembers]
    exact ih (distinct.setMember _ _)

variable {path : List String} {base layer : Json}

/-- Where a layer has a value, it is merged into the one below. -/
theorem at?_merge_of_found (tidy : layer.IsTidy path) {value : Json}
    (found : layer.at? path = some value) :
    (merge base layer).at? path = some (laidOver (base.at? path) value) := by
  induction path generalizing base layer with
  | nil =>
    cases found
    rfl
  | cons key path ih =>
    obtain ⟨inner, member, foundInside⟩ := Option.bind_eq_some_iff.1 found
    obtain ⟨members, rfl, present⟩ := Json.member?_eq_some_iff.1 member
    obtain ⟨distinct, tidyInside⟩ := tidy
    simp only [Json.at?_cons, member?_merge base distinct, present, Option.bind_some]
    cases base.member? key with
    | none => exact foundInside
    | some under => exact ih (tidyInside inner present) foundInside

/-- Where a layer has no value, the one below shows through, if the layer is open along the path. -/
theorem at?_merge_of_open (opens : layer.IsOpen path) (absent : layer.at? path = none) :
    (merge base layer).at? path = base.at? path := by
  induction path generalizing base layer with
  | nil => cases absent
  | cons key path ih =>
    cases layer with
    | object members =>
      obtain ⟨distinct, openInside⟩ := opens
      rw [Json.at?_object] at absent
      rw [Json.at?_cons, member?_merge base distinct, Json.at?_cons]
      cases present : lookup? members key with
      | none => rfl
      | some inner =>
        rw [present, Option.bind_some] at absent
        cases base.member? key with
        | none => exact absent
        | some under => exact ih (openInside inner present) absent
    | _ => exact opens.elim

/-- Over a document that has nothing at a path, a layer has what it has by itself. -/
theorem at?_merge_of_absent (tidy : layer.IsTidy path) (absent : base.at? path = none) :
    (merge base layer).at? path = layer.at? path := by
  induction path generalizing base layer with
  | nil => cases absent
  | cons key path ih =>
    cases layer with
    | object members =>
      obtain ⟨distinct, tidyInside⟩ := tidy
      rw [Json.at?_cons] at absent
      rw [Json.at?_cons, member?_merge base distinct, Json.at?_object]
      cases present : lookup? members key with
      | none => exact absent
      | some inner =>
        cases under : base.member? key with
        | none => rfl
        | some under =>
          rw [under, Option.bind_some] at absent
          exact ih (tidyInside inner present) absent
    | _ => rfl

/-- Layers that are open along a path come to something that is. -/
theorem isOpen_merge (baseOpens : base.IsOpen path) (opens : layer.IsOpen path) :
    (merge base layer).IsOpen path := by
  induction path generalizing base layer with
  | nil => trivial
  | cons key path ih =>
    cases layer with
    | object members =>
      cases base with
      | object under =>
        refine ⟨hasDistinctKeys_mergeMembers baseOpens.1 members, fun merged found => ?_⟩
        change lookup? (mergeMembers under members) key = some merged at found
        rw [lookup?_mergeMembers under opens.1] at found
        cases present : lookup? members key with
        | none =>
          rw [present] at found
          exact baseOpens.2 merged found
        | some inner =>
          rw [present] at found
          obtain rfl := Option.some.inj found
          have openInside := opens.2 inner present
          cases below : lookup? under key with
          | none => exact openInside
          | some value => exact ih (baseOpens.2 value below) openInside
      | _ => exact baseOpens.elim
    | _ => exact opens.elim

end Settings

end Stepwise
