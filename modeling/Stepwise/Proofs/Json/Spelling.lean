import Mathlib.Data.List.DropRight
import Mathlib.Data.List.TakeWhile
import Stepwise.Json.Writer
import Stepwise.Proofs.Id

/-!
# Written documents read back

Both ways to write a document spell it (`Json.spells_compactThen`, `Json.spells_prettyThen`), and
what spells a document is read as that document (`Json.read_of_spells`). Reading bounds the nesting
by a count that starts at the length of the text. Every step of the reader takes one off the count,
and brackets and commas pay for the steps, so a text always has as many characters as its steps.
-/

namespace Stepwise.Json

/-! ### Strings -/

/-- What is written for one character of a string is read as that character. -/
theorem stringRest_escaped (done : List Char) (c : Char) (tail : List Char) :
    stringRest done (escaped c ++ tail) = stringRest (c :: done) tail := by
  by_cases named : c ∈ ['"', '\\', '\x08', '\x0c', '\n', '\r', '\t']
  · simp only [List.mem_cons, List.not_mem_nil, or_false] at named
    rcases named with rfl | rfl | rfl | rfl | rfl | rfl | rfl <;> rfl
  · simp only [List.mem_cons, List.not_mem_nil, or_false, not_or] at named
    obtain ⟨quote, backslash, b, f, n, r, t⟩ := named
    rw [escaped, if_neg quote, if_neg backslash, if_neg b, if_neg f, if_neg n, if_neg r, if_neg t]
    split
    next control =>
      have small : c.toNat < 32 := control
      have unit : Text.hexValue? (Text.hexChars 4 c.toNat) = some c.toNat := by
        rw [Text.hexValue?_hexChars, Nat.mod_eq_of_lt (Nat.lt_trans small (by decide))]
      simp only [Text.hexChars, List.nil_append, List.cons_append] at unit
      simp only [controlEscape, Text.hexChars, List.nil_append, List.cons_append]
      rw [stringRest, unit]
      dsimp only
      rw [if_neg (by omega), if_neg (by omega), Char.ofNat_toNat]
    next plain =>
      rw [List.singleton_append, stringRest, if_neg plain]
      · exact quote
      · rintro a b c d rest rfl
        exact absurd rfl backslash
      · rintro a b rfl
        exact absurd rfl backslash

theorem stringRest_quoted (s : String) (rest : List Char) :
    stringRest [] (s.toList.flatMap escaped ++ '"' :: rest) = some (s, rest) := by
  have all (done cs : List Char) : stringRest done (cs.flatMap escaped ++ '"' :: rest) =
      some (String.ofList (done.reverse ++ cs), rest) := by
    induction cs generalizing done with
    | nil => simp [stringRest]
    | cons c cs ih =>
      rw [List.flatMap_cons, List.append_assoc, stringRest_escaped, ih]
      simp
  rw [all, List.reverse_nil, List.nil_append, String.ofList_toList]

theorem length_quotedThen_lt (s : String) (rest : List Char) :
    rest.length + 1 < (quotedThen s rest).length := by
  simp only [quotedThen, List.length_cons, List.length_append]
  omega

theorem length_scalarThen_lt {text : String} (nonempty : 0 < text.length) (rest : List Char) :
    rest.length < (scalarThen text rest).length := by
  simp only [scalarThen, List.length_append, String.length_toList]
  omega

/-! ### White space -/

theorem length_le_of_skipSpace {cs rest : List Char} (h : skipSpace cs = rest) :
    rest.length ≤ cs.length := by
  rw [← h]
  exact List.length_dropWhile_le _ _

theorem length_lt_of_skipSpace {c : Char} {cs rest : List Char} (h : skipSpace cs = c :: rest) :
    rest.length < cs.length :=
  length_le_of_skipSpace h

theorem length_lt_of_key {key : String} {cs tail inner : List Char}
    (opens : skipSpace cs = quotedThen key tail) (colon : skipSpace tail = ':' :: inner) :
    inner.length + 2 < cs.length := by
  have := length_quotedThen_lt key tail
  have := length_le_of_skipSpace opens
  have := length_lt_of_skipSpace colon
  omega

@[simp] theorem skipSpace_skipSpace (cs : List Char) : skipSpace (skipSpace cs) = skipSpace cs :=
  List.dropWhile_idempotent _ _

@[simp] theorem value?_skipSpace (fuel : Nat) (cs : List Char) :
    value? fuel (skipSpace cs) = value? fuel cs := by
  cases fuel with
  | zero => rw [value?, value?]
  | succ fuel => rw [value?, value?, skipSpace_skipSpace]

@[simp] theorem items_skipSpace (fuel : Nat) (done : List Json) (cs : List Char) :
    items fuel done (skipSpace cs) = items fuel done cs := by
  cases fuel with
  | zero => rw [items, items]
  | succ fuel => rw [items, items, value?_skipSpace]

@[simp] theorem members_skipSpace (fuel : Nat) (done : List (String × Json)) (cs : List Char) :
    members fuel done (skipSpace cs) = members fuel done cs := by
  cases fuel with
  | zero => rw [members, members]
  | succ fuel => rw [members, members, skipSpace_skipSpace]

/-! ### Reading what is spelt -/

namespace Spells

variable {part : Part} {cs rest : List Char}

/-- No part of a text is empty. -/
theorem length_lt (h : Spells part cs rest) : rest.length < cs.length := by
  induction h with
  | @null _ rest eq =>
    exact Nat.lt_of_lt_of_le (length_scalarThen_lt (by decide) rest) (length_le_of_skipSpace eq)
  | @bool b _ rest eq =>
    refine Nat.lt_of_lt_of_le (length_scalarThen_lt ?_ rest) (length_le_of_skipSpace eq)
    cases b <;> decide
  | @string s _ rest eq =>
    have := length_quotedThen_lt s rest
    have := length_le_of_skipSpace eq
    omega
  | emptyArray opens closes | emptyObject opens closes =>
    exact Nat.lt_trans (length_lt_of_skipSpace closes) (length_lt_of_skipSpace opens)
  | array opens _ closes ih | object opens _ closes ih =>
    exact Nat.lt_trans (length_lt_of_skipSpace closes)
      (Nat.lt_trans ih (length_lt_of_skipSpace opens))
  | lastItem _ ih => exact ih
  | item _ comma _ ihFirst ihRest =>
    exact Nat.lt_trans ihRest (Nat.lt_trans (length_lt_of_skipSpace comma) ihFirst)
  | lastMember opens colon _ ih =>
    have := length_lt_of_key opens colon
    omega
  | member opens colon _ comma _ ihFirst ihRest =>
    have := length_lt_of_key opens colon
    have := length_lt_of_skipSpace comma
    omega

/-- No part of a text starts with a closing bracket or brace. -/
theorem head?_ne (h : Spells part cs rest) :
    (skipSpace cs).head? ≠ some ']' ∧ (skipSpace cs).head? ≠ some '}' := by
  induction h with
  | null eq | string eq | emptyArray eq | array eq | emptyObject eq | object eq | lastMember eq
  | member eq => rw [eq]; exact ⟨nofun, nofun⟩
  | @bool b _ _ eq => rw [eq]; cases b <;> exact ⟨nofun, nofun⟩
  | lastItem _ ih => exact ih
  | item _ _ _ ih => exact ih

/-- Reading a document takes a step, so the count is not used up before it. -/
theorem exists_succ (h : Spells part cs rest) {fuel : Nat}
    (enough : cs.length ≤ fuel + rest.length) : ∃ before, fuel = before + 1 := by
  have := h.length_lt
  exact ⟨fuel - 1, by omega⟩

/-- What a part of a text is read as, when the count covers the part. What is between brackets or
braces is read together with the closing one. -/
def IsRead : Part → List Char → List Char → Prop
  | .document value, cs, rest => ∀ fuel, cs.length ≤ fuel + rest.length →
      value? fuel cs = some (value, rest)
  | .items values, cs, tail => ∀ fuel done rest, cs.length < fuel + tail.length →
      skipSpace tail = ']' :: rest →
        items fuel done cs = some (.array (done.reverse ++ values), rest)
  | .members values, cs, tail => ∀ fuel done rest, cs.length < fuel + tail.length →
      skipSpace tail = '}' :: rest →
        members fuel done cs = some (.object (done.reverse ++ values), rest)

theorem isRead (h : Spells part cs rest) : IsRead part cs rest := by
  induction h with
  | null eq =>
    intro fuel enough
    obtain ⟨fuel, rfl⟩ := (null eq).exists_succ enough
    rw [value?, eq]
    rfl
  | @bool b _ _ eq =>
    intro fuel enough
    obtain ⟨fuel, rfl⟩ := (bool eq).exists_succ enough
    rw [value?, eq]
    cases b <;> rfl
  | string eq =>
    intro fuel enough
    obtain ⟨fuel, rfl⟩ := (string eq).exists_succ enough
    simp only [value?, eq, quotedThen, stringRest_quoted, Option.map_some]
  | emptyArray opens closes =>
    intro fuel enough
    obtain ⟨fuel, rfl⟩ := (emptyArray opens closes).exists_succ enough
    simp only [value?, opens, closes]
  | @array values _ inner tail _ opens inside closes ih =>
    intro fuel enough
    obtain ⟨fuel, rfl⟩ := (array opens inside closes).exists_succ enough
    have := length_lt_of_skipSpace opens
    have := length_lt_of_skipSpace closes
    simp only [value?, opens]
    split
    next empty => exact absurd (congrArg List.head? empty) inside.head?_ne.1
    next =>
      rw [items_skipSpace]
      exact ih fuel [] _ (by omega) closes
  | emptyObject opens closes =>
    intro fuel enough
    obtain ⟨fuel, rfl⟩ := (emptyObject opens closes).exists_succ enough
    simp only [value?, opens, closes]
  | @object values _ inner tail _ opens inside closes ih =>
    intro fuel enough
    obtain ⟨fuel, rfl⟩ := (object opens inside closes).exists_succ enough
    have := length_lt_of_skipSpace opens
    have := length_lt_of_skipSpace closes
    simp only [value?, opens]
    split
    next empty => exact absurd (congrArg List.head? empty) inside.head?_ne.2
    next =>
      rw [members_skipSpace]
      exact ih fuel [] _ (by omega) closes
  | lastItem inside ih =>
    intro fuel done rest enough closes
    obtain ⟨fuel, rfl⟩ := inside.exists_succ (Nat.le_of_lt enough)
    simp only [items, ih fuel (by omega), closes, List.reverse_cons]
  | @item _ _ _ tail middle _ inside comma later ihFirst ihRest =>
    intro fuel done rest enough closes
    obtain ⟨fuel, rfl⟩ := (item inside comma later).exists_succ (Nat.le_of_lt enough)
    have := inside.length_lt
    have := length_lt_of_skipSpace comma
    have := later.length_lt
    simp only [items, ihFirst fuel (by omega), comma]
    rw [ihRest fuel _ _ (by omega) closes, List.reverse_cons, List.append_assoc]
    rfl
  | @lastMember key _ _ tail inner _ opens colon inside ih =>
    intro fuel done rest enough closes
    obtain ⟨fuel, rfl⟩ := (lastMember opens colon inside).exists_succ (Nat.le_of_lt enough)
    have := length_lt_of_key opens colon
    simp only [members, opens, quotedThen, stringRest_quoted, colon, ih fuel (by omega), closes,
      List.reverse_cons]
  | @member key _ _ _ tail inner after middle _ opens colon inside comma later ihFirst ihRest =>
    intro fuel done rest enough closes
    obtain ⟨fuel, rfl⟩ :=
      (member opens colon inside comma later).exists_succ (Nat.le_of_lt enough)
    have := length_lt_of_key opens colon
    have := inside.length_lt
    have := length_lt_of_skipSpace comma
    have := later.length_lt
    simp only [members, opens, quotedThen, stringRest_quoted, colon, ihFirst fuel (by omega), comma]
    rw [ihRest fuel _ _ (by omega) closes, List.reverse_cons, List.append_assoc]
    rfl

end Spells

/-! ### What is written spells the document -/

/-- White space before a part may be added or left out. -/
theorem Spells.of_skipSpace {part : Part} {cs rest : List Char} (h : Spells part cs rest)
    {other : List Char} (same : skipSpace other = skipSpace cs) : Spells part other rest := by
  induction h generalizing other with
  | null eq => exact .null (same.trans eq)
  | bool eq => exact .bool (same.trans eq)
  | string eq => exact .string (same.trans eq)
  | emptyArray opens closes => exact .emptyArray (same.trans opens) closes
  | array opens inside closes => exact .array (same.trans opens) inside closes
  | emptyObject opens closes => exact .emptyObject (same.trans opens) closes
  | object opens inside closes => exact .object (same.trans opens) inside closes
  | lastItem _ ih => exact .lastItem (ih same)
  | item _ comma later ih => exact .item (ih same) comma later
  | lastMember opens colon inside => exact .lastMember (same.trans opens) colon inside
  | member opens colon inside comma later =>
    exact .member (same.trans opens) colon inside comma later

theorem skipSpace_append {c : Char} {cs rest : List Char} (h : skipSpace cs = c :: rest)
    (more : List Char) : skipSpace (cs ++ more) = c :: (rest ++ more) := by
  have some : (cs.dropWhile isSpace).isEmpty = false := by
    rw [show cs.dropWhile isSpace = c :: rest from h]
    rfl
  rw [skipSpace, List.dropWhile_append, if_neg (by rw [some]; exact nofun)]
  exact congrArg (· ++ more) h

theorem skipSpace_append_quoted {s : String} {cs rest : List Char}
    (h : skipSpace cs = quotedThen s rest) (more : List Char) :
    skipSpace (cs ++ more) = quotedThen s (rest ++ more) := by
  rw [skipSpace_append h]
  simp only [quotedThen, List.append_assoc, List.cons_append]

/-- What follows a part is not looked at. -/
theorem Spells.append {part : Part} {cs rest : List Char} (h : Spells part cs rest)
    (more : List Char) : Spells part (cs ++ more) (rest ++ more) := by
  induction h with
  | null eq => exact .null (skipSpace_append eq more)
  | @bool b _ _ eq => exact .bool (by cases b <;> exact skipSpace_append eq more)
  | string eq => exact .string (skipSpace_append_quoted eq more)
  | emptyArray opens closes =>
    exact .emptyArray (skipSpace_append opens more) (skipSpace_append closes more)
  | array opens _ closes ih =>
    exact .array (skipSpace_append opens more) ih (skipSpace_append closes more)
  | emptyObject opens closes =>
    exact .emptyObject (skipSpace_append opens more) (skipSpace_append closes more)
  | object opens _ closes ih =>
    exact .object (skipSpace_append opens more) ih (skipSpace_append closes more)
  | lastItem _ ih => exact .lastItem ih
  | item _ comma _ ihFirst ihRest =>
    exact .item ihFirst (skipSpace_append comma more) ihRest
  | lastMember opens colon _ ih =>
    exact .lastMember (skipSpace_append_quoted opens more) (skipSpace_append colon more) ih
  | member opens colon _ comma _ ihFirst ihRest =>
    exact .member (skipSpace_append_quoted opens more) (skipSpace_append colon more) ihFirst
      (skipSpace_append comma more) ihRest

theorem skipSpace_lineThen (level : Nat) (rest : List Char) :
    skipSpace (lineThen level rest) = skipSpace rest := by
  have spaces (count : Nat) : skipSpace (List.replicate count ' ' ++ rest) = skipSpace rest := by
    induction count with
    | zero => rfl
    | succ count ih => exact ih
  exact spaces (2 * level)

mutual

theorem spells_compactThen :
    ∀ value : Json, value.isNumberless = true → ∀ rest,
      Spells (.document value) (value.compactThen rest) rest
  | .null, _, _ => .null rfl
  | .bool b, _, _ => .bool (by cases b <;> rfl)
  | .string _, _, _ => .string rfl
  | .array [], _, _ => .emptyArray rfl rfl
  | .array (first :: more), numberless, rest =>
    .array rfl (spells_compactItemsThen (first :: more) nofun numberless _) rfl
  | .object [], _, _ => .emptyObject rfl rfl
  | .object (first :: more), numberless, rest =>
    .object rfl (spells_compactMembersThen (first :: more) nofun numberless _) rfl

theorem spells_compactItemsThen :
    ∀ items : List Json, items ≠ [] → itemsNumberless items = true → ∀ rest,
      Spells (.items items) (compactItemsThen items rest) rest
  | [item], _, numberless, rest =>
    .lastItem (spells_compactThen item (Bool.and_eq_true_iff.1 numberless).1 rest)
  | first :: second :: more, _, numberless, rest =>
    have both := Bool.and_eq_true_iff.1 numberless
    .item (spells_compactThen first both.1 _) rfl
      (spells_compactItemsThen (second :: more) nofun both.2 rest)

theorem spells_compactMembersThen :
    ∀ members : List (String × Json), members ≠ [] → membersNumberless members = true → ∀ rest,
      Spells (.members members) (compactMembersThen members rest) rest
  | [(_, value)], _, numberless, rest =>
    .lastMember rfl rfl (spells_compactThen value (Bool.and_eq_true_iff.1 numberless).1 rest)
  | (_, value) :: second :: more, _, numberless, rest =>
    have both := Bool.and_eq_true_iff.1 numberless
    .member rfl rfl (spells_compactThen value both.1 _) rfl
      (spells_compactMembersThen (second :: more) nofun both.2 rest)

end

mutual

theorem spells_prettyThen (level : Nat) :
    ∀ value : Json, value.isNumberless = true → ∀ rest,
      Spells (.document value) (value.prettyThen level rest) rest
  | .null, _, _ => .null rfl
  | .bool b, _, _ => .bool (by cases b <;> rfl)
  | .string _, _, _ => .string rfl
  | .array [], _, _ => .emptyArray rfl rfl
  | .array (first :: more), numberless, rest =>
    .array rfl (spells_prettyItemsThen (level + 1) (first :: more) nofun numberless _)
      (skipSpace_lineThen level (']' :: rest))
  | .object [], _, _ => .emptyObject rfl rfl
  | .object (first :: more), numberless, rest =>
    .object rfl (spells_prettyMembersThen (level + 1) (first :: more) nofun numberless _)
      (skipSpace_lineThen level ('}' :: rest))

theorem spells_prettyItemsThen (level : Nat) :
    ∀ items : List Json, items ≠ [] → itemsNumberless items = true → ∀ rest,
      Spells (.items items) (prettyItemsThen level items rest) rest
  | [item], _, numberless, rest =>
    have spells := spells_prettyThen level item (Bool.and_eq_true_iff.1 numberless).1 rest
    .of_skipSpace (.lastItem spells) (skipSpace_lineThen level _)
  | first :: second :: more, _, numberless, rest =>
    have both := Bool.and_eq_true_iff.1 numberless
    have spells := spells_prettyThen level first both.1 _
    .of_skipSpace (.item spells rfl
      (spells_prettyItemsThen level (second :: more) nofun both.2 rest))
      (skipSpace_lineThen level _)

theorem spells_prettyMembersThen (level : Nat) :
    ∀ members : List (String × Json), members ≠ [] → membersNumberless members = true → ∀ rest,
      Spells (.members members) (prettyMembersThen level members rest) rest
  | [(_, value)], _, numberless, rest =>
    have spells := spells_prettyThen level value (Bool.and_eq_true_iff.1 numberless).1 rest
    have padded : Spells _ (' ' :: prettyThen level value rest) rest := spells.of_skipSpace rfl
    .of_skipSpace (.lastMember rfl rfl padded) (skipSpace_lineThen level _)
  | (_, value) :: second :: more, _, numberless, rest =>
    have both := Bool.and_eq_true_iff.1 numberless
    let after := ',' :: prettyMembersThen level (second :: more) rest
    have spells := spells_prettyThen level value both.1 after
    have padded : Spells _ (' ' :: prettyThen level value after) after := spells.of_skipSpace rfl
    .of_skipSpace (.member rfl rfl padded rfl
      (spells_prettyMembersThen level (second :: more) nofun both.2 rest))
      (skipSpace_lineThen level _)

end

/-- A text that spells a document, with nothing but white space after it, is read as the
document. -/
theorem read_of_spells {text : String} {value : Json} {rest : List Char}
    (spells : Spells (.document value) text.toList rest) (ends : skipSpace rest = []) :
    read text = some value := by
  have found : value? (text.toList.length + 1) text.toList = some (value, rest) :=
    spells.isRead _ (by omega)
  simp only [read, found, ends, List.isEmpty_nil, if_true]

/-- Both ways to write a document without numbers are read as the document, also with a line end
after it. -/
theorem read_written {value : Json} (numberless : value.isNumberless = true) :
    read (value.compact ++ "\n") = some value ∧ read (value.pretty ++ "\n") = some value := by
  have ended {cs : List Char} (spells : Spells (.document value) cs []) :
      read (String.ofList cs ++ "\n") = some value := by
    have spelt : Spells (.document value) (String.ofList cs ++ "\n").toList ['\n'] := by
      rw [String.toList_append, String.toList_ofList]
      exact spells.append ['\n']
    exact read_of_spells spelt rfl
  exact ⟨ended (spells_compactThen value numberless []),
    ended (spells_prettyThen 0 value numberless [])⟩

end Stepwise.Json
