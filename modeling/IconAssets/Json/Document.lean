import IconAssets.Json.Numeral

/-!
# Documents

## Items and members

What stands between brackets: items with commas in between, and members that are a key, a colon
and a value each.  The loops here are shared by all readers; what is done with an item or a member
is their argument.

Each round of a loop takes at least one character, so the length of the text bounds the rounds.
-/

namespace IconAssets
namespace Json

/-- What a reader finds in front of an item or a member. -/
inductive Next where
  /-- The closing bracket; the text is what stands behind it. -/
  | done (rest : Text)
  /-- The next item or member, with which the text starts. -/
  | more (t : Text)

/-- Goes to the next item of an array: over the comma, unless it is the first one. -/
def nextItem (first : Bool) (t : Text) : Except Stop Next :=
  match skipSpace t with
  | [] => .error (stopOn .endInList [])
  | c :: u =>
    if c = ']' then .ok (.done u)
    else if first then .ok (.more (c :: u))
    else if c = ',' then
      match skipSpace u with
      | [] => .error (stopOn .endInValue [])
      | d :: v => if d = ']' then .error (stopOn .trailingComma (d :: v)) else .ok (.more (d :: v))
    else .error (stopOn .expectedListCommaOrEnd (c :: u))

/-- Goes to the next member of an object; the answer starts behind the quote of its key. -/
def nextMember (first : Bool) (t : Text) : Except Stop Next :=
  match skipSpace t with
  | [] => .error (stopOn .endInObject [])
  | c :: u =>
    if c = '\x7d' then .ok (.done u)
    else if first then
      if c = '"' then .ok (.more u) else .error (stopOn .keyMustBeString (c :: u))
    else if c = ',' then
      match skipSpace u with
      | [] => .error (stopOn .endInValue [])
      | d :: v =>
        if d = '"' then .ok (.more v)
        else if d = '\x7d' then .error (stopOn .trailingComma (d :: v))
        else .error (stopOn .keyMustBeString (d :: v))
    else .error (stopOn .expectedObjectCommaOrEnd (c :: u))

/-- The text behind the colon of a member. -/
def readColon (t : Text) : Except Stop Text :=
  match skipSpace t with
  | [] => .error (stopOn .endInObject [])
  | c :: u => if c = ':' then .ok u else .error (stopOn .expectedColon (c :: u))

/-- Reads items up to the closing bracket, at most `room` of them. -/
def readItemsFrom {α : Type} (item : Reader α) : Nat → Bool → Reader (List α)
  | 0, _, t => .error (stopOn .endInList t)
  | room + 1, first, t =>
    match nextItem first t with
    | .error e => .error e
    | .ok (.done rest) => .ok ([], rest)
    | .ok (.more u) =>
      match item u with
      | .error e => .error e
      | .ok (x, rest) => (readItemsFrom item room false rest).map fun r => (x :: r.1, r.2)

/-- The items behind an opening bracket. -/
def readItems {α : Type} (item : Reader α) : Reader (List α) := fun t =>
  readItemsFrom item (t.length + 1) true t

/-- Reads members up to the closing bracket, at most `room` of them.  `member` takes what has been
collected so far and the key, and reads the text behind the key. -/
def foldMembersFrom {σ : Type} (member : σ → Text → Reader σ) : Nat → Bool → σ → Reader σ
  | 0, _, _, t => .error (stopOn .endInObject t)
  | room + 1, first, s, t =>
    match nextMember first t with
    | .error e => .error e
    | .ok (.done rest) => .ok (s, rest)
    | .ok (.more u) =>
      match readString u with
      | .error e => .error e
      | .ok (key, v) =>
        match member s key v with
        | .error e => .error e
        | .ok (s, rest) => foldMembersFrom member room false s rest

/-- Collects the members behind an opening brace. -/
def foldMembers {σ : Type} (member : σ → Text → Reader σ) (s : σ) : Reader σ := fun t =>
  foldMembersFrom member (t.length + 1) true s t

/-!
## Reading documents

A document is one value with nothing but space around it.  Arrays and objects may be nested up to
a limit.  Of several members with one key, the last one counts.
-/

/-- The greatest number of arrays and objects around each other. -/
def nestingLimit : Nat := 127

/-- A member of an object that is added to those before it. -/
def readMember (value : Reader Value) (members : List (Text × Value)) (key : Text) :
    Reader (List (Text × Value)) := fun t =>
  match readColon t with
  | .error e => .error e
  | .ok u =>
    match value u with
    | .error e => .error e
    | .ok (v, rest) => .ok (setMember key v members, rest)

/-- Reads a value; `inner` reads the values inside it, if any may be nested further. -/
def readValueWith (inner : Option (Reader Value)) : Reader Value := fun t =>
  match skipSpace t with
  | [] => .error (stopOn .endInValue [])
  | c :: u =>
    if c = 'n' then (readWord "ull".toList u).map fun rest => (.null, rest)
    else if c = 't' then (readWord "rue".toList u).map fun rest => (.bool true, rest)
    else if c = 'f' then (readWord "alse".toList u).map fun rest => (.bool false, rest)
    else if c = '"' then (readString u).map fun r => (.string r.1, r.2)
    else if startsNumber c then (readNumber (c :: u)).map fun r => (.number r.1, r.2)
    else if c = '[' then
      match inner with
      | none => .error (stopOn .tooDeep (c :: u))
      | some value => (readItems value u).map fun r => (.array r.1, r.2)
    else if c = '\x7b' then
      match inner with
      | none => .error (stopOn .tooDeep (c :: u))
      | some value => (foldMembers (readMember value) [] u).map fun r => (.object r.1, r.2)
    else .error (stopOn .expectedValue (c :: u))

/-- Reads a value in which at most `levels` arrays and objects stand around each other. -/
def readValue : Nat → Reader Value
  | 0 => readValueWith none
  | levels + 1 => readValueWith (some (readValue levels))

/-- Reads a whole text with one reader. -/
def readAll {α : Type} (value : Reader α) (t : Text) : Except Fault α :=
  match value t with
  | .error e => .error (e.inText t)
  | .ok (v, rest) =>
    match skipSpace rest with
    | [] => .ok v
    | c :: u => .error ((stopOn .trailingCharacters (c :: u)).inText t)

/-- Reads a document. -/
def Value.parse (t : Text) : Except Fault Value := readAll (readValue nestingLimit) t

/-- The text behind a member's value that nobody wants. -/
def skipMember (skip : Text → Except Stop Text) (t : Text) : Except Stop Text :=
  match readColon t with
  | .error e => .error e
  | .ok u => skip u

/-- Goes to the next item of an array that nobody wants: a bracket behind a comma is no value. -/
def nextSkippedItem (first : Bool) (t : Text) : Except Stop Next :=
  match skipSpace t with
  | [] => .error (stopOn .endInList [])
  | c :: u =>
    if c = ']' then .ok (.done u)
    else if first then .ok (.more (c :: u))
    else if c = ',' then .ok (.more u)
    else .error (stopOn .expectedListCommaOrEnd (c :: u))

/-- Goes to the next member of an object that nobody wants: a brace behind a comma is no key. -/
def nextSkippedMember (first : Bool) (t : Text) : Except Stop Next :=
  let key (u : Text) : Except Stop Next :=
    match skipSpace u with
    | [] => .error (stopOn .endInObject [])
    | d :: v => if d = '"' then .ok (.more v) else .error (stopOn .keyMustBeString (d :: v))
  match skipSpace t with
  | [] => .error (stopOn .endInObject [])
  | c :: u =>
    if c = '\x7d' then .ok (.done u)
    else if first then key (c :: u)
    else if c = ',' then key u
    else .error (stopOn .expectedObjectCommaOrEnd (c :: u))

mutual

/-- The text behind a value that nobody wants.  The nesting of such a value is not limited; each
call takes a character or goes on to a smaller task, and `fuel` bounds their number. -/
def skipValueFrom : Nat → Text → Except Stop Text
  | 0, t => .error (stopOn .endInValue t)
  | fuel + 1, t =>
    match skipSpace t with
    | [] => .error (stopOn .endInValue [])
    | c :: u =>
      if c = 'n' then readWord "ull".toList u
      else if c = 't' then readWord "rue".toList u
      else if c = 'f' then readWord "alse".toList u
      else if c = '"' then skipString u
      else if startsNumber c then skipNumber (c :: u)
      else if c = '[' then skipItemsFrom fuel true u
      else if c = '\x7b' then skipMembersFrom fuel true u
      else .error (stopOn .expectedValue (c :: u))

/-- The text behind the closing bracket of an array that nobody wants. -/
def skipItemsFrom : Nat → Bool → Text → Except Stop Text
  | 0, _, t => .error (stopOn .endInList t)
  | fuel + 1, first, t =>
    match nextSkippedItem first t with
    | .error e => .error e
    | .ok (.done rest) => .ok rest
    | .ok (.more u) =>
      match skipValueFrom fuel u with
      | .error e => .error e
      | .ok rest => skipItemsFrom fuel false rest

/-- The text behind the closing brace of an object that nobody wants. -/
def skipMembersFrom : Nat → Bool → Text → Except Stop Text
  | 0, _, t => .error (stopOn .endInObject t)
  | fuel + 1, first, t =>
    match nextSkippedMember first t with
    | .error e => .error e
    | .ok (.done rest) => .ok rest
    | .ok (.more u) =>
      match skipString u with
      | .error e => .error e
      | .ok v =>
        match skipMember (skipValueFrom fuel) v with
        | .error e => .error e
        | .ok rest => skipMembersFrom fuel false rest

end

/-- The text behind a value that nobody wants. -/
def skipValue (t : Text) : Except Stop Text := skipValueFrom (2 * t.length + 2) t

end Json
end IconAssets
