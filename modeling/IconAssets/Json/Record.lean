import IconAssets.Json.Document

/-!
# Reading records

A record is read from an object that holds its fields as members, in any order and among members
that are skipped; or from an array that holds its fields as items, in the order of the record.

A reader for a certain kind of value refuses the other kinds by name.  A word, number or string
is read to its end first; an array or object is not entered.
-/

namespace IconAssets
namespace Json

/-- The refusal of the value at the start of a text, which is of another kind. -/
def wrongKind (wanted : Text) (t : Text) : Stop :=
  let refuse (r : Except Stop (Found × Text)) : Stop :=
    match r with
    | .error e => e
    | .ok (found, rest) => stopAt (.invalidType found wanted) rest
  match t with
  | [] => stopOn .expectedValue []
  | c :: u =>
    if c = 'n' then refuse ((readWord "ull".toList u).map fun rest => (.null, rest))
    else if c = 't' then refuse ((readWord "rue".toList u).map fun rest => (.bool true, rest))
    else if c = 'f' then refuse ((readWord "alse".toList u).map fun rest => (.bool false, rest))
    else if startsNumber c then refuse ((readNumber (c :: u)).map fun r => (.number r.1, r.2))
    else if c = '"' then refuse ((readString u).map fun r => (.string r.1, r.2))
    else if c = '[' then stopAt (.invalidType .sequence wanted) (c :: u)
    else if c = '\x7b' then stopAt (.invalidType .map wanted) (c :: u)
    else stopOn .expectedValue (c :: u)

/-- A string. -/
def readText : Reader Text := fun t =>
  match skipSpace t with
  | [] => .error (stopOn .endInValue [])
  | c :: u => if c = '"' then readString u else .error (wrongKind "a string".toList (c :: u))

/-- A string, or the word for nothing. -/
def readTextOrNull : Reader (Option Text) := fun t =>
  match skipSpace t with
  | [] => .error (stopOn .endInValue [])
  | c :: u =>
    if c = 'n' then (readWord "ull".toList u).map fun rest => (none, rest)
    else (readText (c :: u)).map fun r => (some r.1, r.2)

/-- The words for a number of 32 bits. -/
def word32 : Text := "u32".toList

/-- An integer of 32 bits without sign. -/
def readWord32 : Reader UInt32 := fun t =>
  match skipSpace t with
  | [] => .error (stopOn .endInValue [])
  | c :: u =>
    if startsNumber c then
      match readNumber (c :: u) with
      | .error e => .error e
      | .ok (.integer i, rest) =>
        if 0 ≤ i && i < Nat.pow 2 32 then .ok (i.toNat.toUInt32, rest)
        else .error (stopAt (.invalidValue (.number (.integer i)) word32) rest)
      | .ok (.float f, rest) => .error (stopAt (.invalidType (.number (.float f)) word32) rest)
    else .error (wrongKind word32 (c :: u))

/-- An array of items of one kind. -/
def readList {α : Type} (item : Reader α) : Reader (List α) := fun t =>
  match skipSpace t with
  | [] => .error (stopOn .endInValue [])
  | c :: u =>
    if c = '[' then readItems item u else .error (wrongKind "a sequence".toList (c :: u))

/-- A field of records of type `ρ`. -/
structure Field (ρ : Type) where
  /-- The key of the field's member. -/
  key : Text
  /-- Whether a record must have the field. -/
  required : Bool
  /-- Reads the field into a record. -/
  read : ρ → Reader ρ

/-- How records of type `ρ` are written. -/
structure Shape (ρ : Type) where
  /-- The name of the type. -/
  name : Text
  /-- The record in which no field has been read. -/
  blank : ρ
  /-- The fields, in the order of the record. -/
  fields : List (Field ρ)

namespace Shape

variable {ρ : Type}

/-- The words for a record. -/
def wanted (s : Shape ρ) : Text := "struct ".toList ++ s.name

/-- The words for an array that holds a record. -/
def wantedItems (s : Shape ρ) : Text :=
  let n := s.fields.length
  s.wanted ++ " with ".toList ++ Text.ofNat n ++
    (if n = 1 then " element" else " elements").toList

/-- The text behind the closing bracket of an array of which all wanted items have been read. -/
def closeItems (t : Text) : Except Stop Text :=
  match skipSpace t with
  | [] => .error (stopOn .endInList [])
  | c :: u =>
    if c = ']' then .ok u
    else if c = ',' then
      match skipSpace u with
      | [] => .error (stopOn .trailingCharacters [])
      | d :: v =>
        if d = ']' then .error (stopOn .trailingComma (d :: v))
        else .error (stopOn .trailingCharacters (d :: v))
    else .error (stopOn .trailingCharacters (c :: u))

/-- Reads the given fields from the items of an array of which `count` have been read. -/
def readFields (s : Shape ρ) : List (Field ρ) → Nat → Bool → ρ → Reader ρ
  | [], _, _, r, t => (closeItems t).map fun rest => (r, rest)
  | f :: fs, count, first, r, t =>
    match nextItem first t with
    | .error e => .error e
    | .ok (.done rest) =>
      if f.required then .error (stopAt (.invalidLength count s.wantedItems) rest)
      else readFields s fs count first r t
    | .ok (.more u) =>
      match f.read r u with
      | .error e => .error e
      | .ok (r, rest) => readFields s fs (count + 1) false r rest

/-- A repeated key.  The stop is behind the object if it ends here, and else in front of the next
token. -/
def repeated (key : Text) (t : Text) : Stop :=
  match skipSpace t with
  | [] => stopAt (.duplicateField key) []
  | c :: u => stopAt (.duplicateField key) (if c = '\x7d' then u else c :: u)

/-- A member of a record that is added to those before it: a field's value is read, and any
other value is skipped.  The keys of the fields that have been read are kept. -/
def readMember (s : Shape ρ) (state : ρ × List Text) (key : Text) : Reader (ρ × List Text) :=
  fun t =>
    match s.fields.find? (fun f => f.key = key) with
    | none => (skipMember skipValue t).map fun rest => (state, rest)
    | some f =>
      if key ∈ state.2 then .error (repeated key t)
      else
        match readColon t with
        | .error e => .error e
        | .ok u =>
          match f.read state.1 u with
          | .error e => .error e
          | .ok (r, rest) => .ok ((r, key :: state.2), rest)

/-- The members of a record. -/
def readMembers (s : Shape ρ) : Reader ρ := fun t =>
  match foldMembers s.readMember (s.blank, []) t with
  | .error e => .error e
  | .ok ((r, keys), rest) =>
    match s.fields.find? fun f => f.required && !(f.key ∈ keys) with
    | some f => .error (stopAt (.missingField f.key) rest)
    | none => .ok (r, rest)

/-- A record. -/
def read (s : Shape ρ) : Reader ρ := fun t =>
  match skipSpace t with
  | [] => .error (stopOn .endInValue [])
  | c :: u =>
    if c = '[' then s.readFields s.fields 0 true s.blank u
    else if c = '\x7b' then s.readMembers u
    else .error (wrongKind s.wanted (c :: u))

/-- A document that is a record. -/
def parse (s : Shape ρ) (t : Text) : Except Fault ρ := readAll s.read t

end Shape

end Json
end IconAssets
