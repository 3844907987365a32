import Stepwise.Text.Number

/-!
# Identifiers

An identifier is a value of 128 bits, written as 32 hexadecimal digits in five groups joined by
hyphens. Reading accepts the hyphenated form, the bare digits, the form in braces and the form
with the prefix `urn:uuid:`, hexadecimal digits and prefix in either case; writing uses lower
case and hyphens.
-/

namespace Stepwise

/-- A 128-bit identifier. -/
structure Id where
  bits : BitVec 128
deriving DecidableEq, Repr

namespace Id

open Text (hexValue? hexChars)

/-- The identifier of all zeros. It names no operation. -/
def nil : Id := ⟨0⟩

instance : Inhabited Id := ⟨nil⟩

/-- Exactly 32 hexadecimal digits. -/
def ofDigits? (cs : List Char) : Option Id :=
  if cs.length = 32 then (hexValue? cs).map fun value => ⟨BitVec.ofNat 128 value⟩ else none

/-- Five groups of 8, 4, 4, 4 and 12 hexadecimal digits joined by hyphens. -/
def ofHyphenated? (cs : List Char) : Option Id :=
  if cs.length = 36 ∧ cs[8]? = some '-' ∧ cs[13]? = some '-' ∧ cs[18]? = some '-' ∧
      cs[23]? = some '-' then
    ofDigits? (cs.take 8 ++ (cs.drop 9).take 4 ++ (cs.drop 14).take 4 ++ (cs.drop 19).take 4 ++
      cs.drop 24)
  else none

/-- The prefix of the resource-name form. -/
def resourcePrefix : List Char := "urn:uuid:".toList

/-- Reads any of the four spellings. Nothing is trimmed. -/
def ofChars? (cs : List Char) : Option Id :=
  if cs.length = 32 then ofDigits? cs
  else if cs.length = 36 then ofHyphenated? cs
  else if cs.length = 38 ∧ cs.head? = some '{' ∧ cs.getLast? = some '}' then
    ofHyphenated? (cs.drop 1).dropLast
  else if cs.length = 45 ∧ (cs.take 9).map Char.toLower = resourcePrefix then
    ofHyphenated? (cs.drop 9)
  else none

/-- Reads an identifier from text, in any of the four spellings. -/
def ofText? (text : String) : Option Id := ofChars? text.toList

/-- The 32 digits of an identifier. -/
def digits (id : Id) : List Char := hexChars 32 id.bits.toNat

/-- The characters of the hyphenated lower-case form. -/
def chars (id : Id) : List Char :=
  let ds := id.digits
  ds.take 8 ++ '-' :: (ds.drop 8).take 4 ++ '-' :: (ds.drop 12).take 4 ++
    '-' :: (ds.drop 16).take 4 ++ '-' :: ds.drop 20

/-- The hyphenated lower-case form. -/
def text (id : Id) : String := String.ofList id.chars

instance : ToString Id := ⟨text⟩

end Id

/-- A supply of identifiers: the `i`-th one drawn is `supply i`. Nothing is assumed of it, so
repetitions are possible unless a statement excludes them. -/
abbrev Supply := Nat → Id

/-- The supply that is left after `count` identifiers were drawn. -/
def Supply.drop (supply : Supply) (count : Nat) : Supply := fun i => supply (count + i)

/-- The supply that keeps the first 66 bits of an identifier and counts upwards in the 62 others. -/
def Supply.counting (base : Id) : Supply := fun i =>
  let counter : BitVec 128 := 0x3FFFFFFFFFFFFFFF
  ⟨(base.bits &&& ~~~counter) ||| ((base.bits + BitVec.ofNat 128 i) &&& counter)⟩

/-! ## The spellings of an identifier -/

/-- The identifier is spelt by its digits, alone or in groups with hyphens between them. The groups
may stand in braces or after `urn:uuid:`. Letters may be of either case. -/
inductive Id.Spells (id : Id) : List Char → Prop where
  | bare {cs : List Char} : cs.map Char.toLower = id.digits → Spells id cs
  | hyphenated {cs : List Char} : cs.map Char.toLower = id.chars → Spells id cs
  | braced {cs : List Char} : cs.map Char.toLower = id.chars → Spells id ('{' :: cs ++ ['}'])
  | resource {cs : List Char} : cs.map Char.toLower = resourcePrefix ++ id.chars → Spells id cs

end Stepwise
