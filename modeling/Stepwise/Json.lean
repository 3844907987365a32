import Stepwise.Json.Binary64

/-!
# Documents

`Json` is the type of documents: settings, operations and whole decompositions are exchanged as
such values. Integers and floating-point numbers are different values even when they are equal as
numbers. Members of an object are kept in the order in which they are written; `ascending` is the
order in which they are decoded.
-/

namespace Stepwise

/-- A document. -/
inductive Json where
  | null
  | bool (b : Bool)
  | int (n : Int)
  | float (x : Binary64)
  | string (s : String)
  | array (items : List Json)
  | object (members : List (String × Json))
deriving Repr, Inhabited

namespace Json

/-- Puts a member into its place among members with ascending keys. A member with the same key is
replaced. -/
def insertMember {α : Type} (key : String) (value : α) : List (String × α) → List (String × α)
  | [] => [(key, value)]
  | (k, v) :: rest =>
    if key < k then (key, value) :: (k, v) :: rest
    else if key = k then (key, value) :: rest
    else (k, v) :: insertMember key value rest

/-- The members in ascending order of their keys, compared by code points. Of several members with
one key the last counts. -/
def ascending {α : Type} (members : List (String × α)) : List (String × α) :=
  members.foldl (fun sorted member => insertMember member.1 member.2 sorted) []

/-- The value under a key: that of the last member with the key. -/
def lookup? {α : Type} (members : List (String × α)) (key : String) : Option α :=
  match members with
  | [] => none
  | (k, v) :: rest =>
    match lookup? rest key with
    | some found => some found
    | none => if k = key then some v else none

/-- Replaces the value under a key, or adds a member at the end. -/
def setMember {α : Type} (members : List (String × α)) (key : String) (value : α) :
    List (String × α) :=
  match members with
  | [] => [(key, value)]
  | (k, v) :: rest =>
    if k = key then (key, value) :: rest.filter (fun member => member.1 != key)
    else (k, v) :: setMember rest key value

/-- The members of an object. -/
def members? : Json → Option (List (String × Json))
  | object members => some members
  | _ => none

/-- The value under a key of an object. -/
def member? (document : Json) (key : String) : Option Json :=
  document.members?.bind fun members => lookup? members key

@[simp] theorem member?_object (members : List (String × Json)) (key : String) :
    (object members).member? key = lookup? members key := rfl

/-!
## Values at paths

A path is a list of keys, one for each level of objects.
-/

/-- The value at a path, if there are objects all the way to it. -/
def at? : Json → List String → Option Json
  | document, [] => some document
  | document, key :: path => (document.member? key).bind fun inner => inner.at? path

theorem at?_cons (document : Json) (key : String) (path : List String) :
    document.at? (key :: path) = (document.member? key).bind fun inner => inner.at? path := rfl

@[simp] theorem at?_object (members : List (String × Json)) (key : String) (path : List String) :
    (object members).at? (key :: path) =
      (lookup? members key).bind fun inner => inner.at? path := rfl

@[simp] theorem at?_append (document : Json) (path more : List String) :
    document.at? (path ++ more) = (document.at? path).bind fun inner => inner.at? more := by
  induction path generalizing document with
  | nil => rfl
  | cons key path ih =>
    rw [List.cons_append, at?_cons, at?_cons, Option.bind_assoc]
    exact congrArg _ (funext ih)

@[simp] theorem at?_singleton (document : Json) (key : String) :
    document.at? [key] = document.member? key :=
  Option.bind_fun_some _

/-- Only objects have members. -/
theorem member?_eq_some_iff {document : Json} {key : String} {inner : Json} :
    document.member? key = some inner ↔
      ∃ members, document = .object members ∧ lookup? members key = some inner := by
  cases document with
  | object members =>
    refine ⟨fun found => ⟨members, rfl, found⟩, ?_⟩
    rintro ⟨_, ⟨⟩, found⟩
    exact found
  | _ => exact ⟨nofun, nofun⟩

end Json

end Stepwise
