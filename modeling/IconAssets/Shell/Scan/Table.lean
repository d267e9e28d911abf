import IconAssets.Shell.Scan.Value
import Std.Data.HashMap

/-!
# Tables

A table has values for keys.  Its keys are told in the order of buckets: a key goes into the bucket
of its hash, and in a bucket those come first that have been looked at last.

Keys that are integers are kept in buckets of their own, by the numbers themselves, until the order
of the keys or a key of another kind is asked for.  A table that is made from a row has no buckets
before something else than an element of the row is asked for.
-/

namespace IconAssets
namespace Shell
namespace Scan

/-- Texts are hashed character by character. -/
instance : Hashable Text := @instHashableList Char instHashableChar

/-- A key of a table. -/
inductive Key where
  | integer (i : Int)
  | text (t : Text)

/-- A table. -/
structure Table where
  values : Std.HashMap Text Value
  /-- Whether the keys are those of a row that starts with one. -/
  isRow : Bool
  /-- The buckets of the keys that are integers, each with the key that was last looked at first. -/
  byNumber : Array (List Int)
  /-- The buckets of all keys, if they have been asked for. -/
  byText : Option (Array (List Text))

namespace Key

/-- The text of an integer. -/
def ofInteger (i : Int) : Text := (if i < 0 then ['-'] else []) ++ Text.ofNat i.natAbs

/-- The text of a key. -/
def toText : Key → Text
  | .integer i => ofInteger i
  | .text t => t

/-- The key of a value; only a number that is a small integer is an integer. -/
def ofValue (numberFormat : Text) (v : Value) : Key :=
  match v with
  | .number x =>
    match x.toInt? with
    | some i => if i.natAbs < (halfBound.toNat) then .integer i else .text (v.toText numberFormat)
    | none => .text (v.toText numberFormat)
  | v => .text (v.toText numberFormat)

end Key

namespace Table

/-- The number of buckets of a new table. -/
def firstSize : Nat := 64

/-- How many keys there are for a bucket before the buckets are doubled. -/
def crowd : Nat := 12

/-- A table without keys. -/
def empty : Table := ⟨∅, false, Array.replicate firstSize [], none⟩

/-- The number of keys. -/
def size (t : Table) : Nat := t.values.size

/-- The hash of a text: for each octet a product modulo a power of two. -/
def hash (t : Text) : Nat :=
  (t.foldl (fun h c => (h ^^^ UInt32.ofNat c.toNat) * 16777619) (2166136261 : UInt32)).toNat

/-- The bucket of an integer. -/
def place (size : Nat) (i : Int) : Nat := (i % size).toNat

/-- Puts a key in front of a bucket. -/
def push {α : Type} (buckets : Array (List α)) (k : Nat) (a : α) : Array (List α) :=
  buckets.modify k (a :: ·)

/-- Moves a key to the front of a bucket. -/
def raise {α : Type} [BEq α] (buckets : Array (List α)) (k : Nat) (a : α) : Array (List α) :=
  buckets.modify k fun l => a :: l.erase a

/-- The buckets doubled; those keys move that have another bucket now. -/
def doubled {α : Type} (buckets : Array (List α)) (bucketOf : Nat → α → Nat) : Array (List α) :=
  let size := 2 * buckets.size
  let parts := buckets.mapIdx fun k l => l.partition fun a => bucketOf size a = k
  parts.map (·.1) ++ parts.map (·.2)

/-- The table with more buckets if there are too many keys. -/
def grown (t : Table) : Table :=
  if crowd * t.byNumber.size < t.size then
    { t with
      byNumber := doubled t.byNumber place
      byText := t.byText.map fun b => doubled b fun size k => hash k % size }
  else t

/-- The table with buckets instead of a row. -/
def spread (t : Table) : Table :=
  if !t.isRow then t
  else
    let size := sizeFor t.size t.size firstSize
    let keys : List Int := (List.range t.size).map fun i => Int.ofNat (i + 1)
    { t with
      isRow := false
      byNumber := keys.foldl (fun b i => push b (place size i) i) (Array.replicate size []) }
where
  /-- The number of buckets for so many keys; each call doubles it. -/
  sizeFor (keys : Nat) : Nat → Nat → Nat
    | 0, size => size
    | fuel + 1, size => if crowd * size < keys then sizeFor keys fuel (2 * size) else size

/-- The table with buckets of all keys. -/
def indexed (t : Table) : Table :=
  let t := t.spread
  match t.byText with
  | some _ => t
  | none =>
    let size := t.byNumber.size
    { t with
      byText := some (t.byNumber.foldl (fun b l =>
        l.foldl (fun b i => push b (hash (Key.ofInteger i) % size) (Key.ofInteger i)) b)
        (Array.replicate size [])) }

/-- Whether there is a value for a key. -/
def holds (t : Table) (k : Key) : Bool := t.values.contains k.toText

/-- The table after a text has been looked at; it becomes a key if it is none and `creates` says
so. -/
def touchText (t : Table) (k : Text) (creates : Bool) : Table :=
  let t := t.indexed
  if t.values.contains k then
    { t with byText := t.byText.map fun b => raise b (hash k % b.size) k }
  else if creates then
    let t := { t with values := t.values.insert k .unset }.grown
    { t with byText := t.byText.map fun b => push b (hash k % b.size) k }
  else t

/-- The table after an integer has been looked at. -/
def touchInteger (t : Table) (i : Int) (creates : Bool) : Table :=
  if t.isRow && 1 ≤ i && i ≤ t.size then t
  else if t.isRow && !creates then t
  else
    let t := t.spread
    let k := place t.byNumber.size i
    if (t.byNumber[k]?.getD []).contains i then { t with byNumber := raise t.byNumber k i }
    else
      let t := if t.byText.isSome then t.touchText (Key.ofInteger i) creates
        else if creates then { t with values := t.values.insert (Key.ofInteger i) .unset }.grown
        else t
      if t.values.contains (Key.ofInteger i) then
        { t with byNumber := push t.byNumber (place t.byNumber.size i) i }
      else t

/-- The table after a key has been looked at. -/
def touch (t : Table) (k : Key) (creates : Bool) : Table :=
  if t.size = 0 && !creates then t
  else
    match k with
    | .integer i => t.touchInteger i creates
    | .text k => t.touchText k creates

/-- The value for a key. -/
def get (t : Table) (k : Key) : Value := t.values.getD k.toText .unset

/-- The table with another value for a key that it has. -/
def set (t : Table) (k : Key) (v : Value) : Table :=
  { t with values := t.values.insert k.toText v }

/-- The table without a key. -/
def erase (t : Table) (k : Key) : Table :=
  if !t.holds k then t.touch k false
  else
    let t := t.spread.touch k false
    let name := k.toText
    let t : Table :=
      { t with
        values := t.values.erase name
        byNumber := match integer? name with
          | some i =>
            if Key.ofInteger i = name then t.byNumber.modify (place t.byNumber.size i) (·.erase i)
            else t.byNumber
          | none => t.byNumber
        byText := t.byText.map fun b => b.modify (hash name % b.size) (·.erase name) }
    if t.size = 0 then empty else t
where
  /-- The integer that a text spells. -/
  integer? (t : Text) : Option Int :=
    match t with
    | '-' :: u => (digits? u).map fun n => -(n : Int)
    | u => (digits? u).map fun n => (n : Int)

/-- The keys in their order. -/
def keys (t : Table) : List Text := ((t.indexed.byText.getD #[]).toList).flatten

/-- The table of a row. -/
def ofRow (vs : List Value) : Table :=
  if vs = [] then empty
  else
    { empty with
      isRow := true
      values := (vs.zipIdx 1).foldl (fun m e => m.insert (Text.ofNat e.2) e.1) ∅ }

end Table

end Scan
end Shell
end IconAssets
