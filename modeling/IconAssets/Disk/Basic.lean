import IconAssets.Text.Utf8

/-!
# Disks

A disk is a tree of folders, files and devices.  It is kept as a list of objects with their places, a place
being the names on the way down from the root folder.  An object counts only where all places
above it hold folders, so every disk is a tree, whatever its list.

A disk also knows the folder that relative paths start from.

`lookup` is the view of a disk; every change is described by what it does to it.
-/

namespace IconAssets

/-- The number of bytes of which some devices have more than anybody reads. -/
def deviceSize : Nat := 1048576

/-- Bytes that follow no rule that can be seen. -/
def noiseFrom : Nat → Nat → Bytes
  | 0, _ => []
  | n + 1, seed =>
    let next := (seed * 1103515245 + 12345) % 2147483648
    UInt8.ofNat (next / 65536) :: noiseFrom n next

/-- The names on the way from the root folder to an object. -/
abbrev Place := List Text

/-- Something that is read and written like a file and keeps nothing. -/
inductive Device where
  /-- Nothing to read, and room for everything. -/
  | void
  /-- Zeros to read, and room for everything. -/
  | zeros
  /-- Zeros to read, and no room. -/
  | full
  /-- Bytes to read that follow no rule, and room for everything. -/
  | noise
  /-- A terminal, which is not there. -/
  | terminal
  /-- A stream of the program that opens it, with what is still to be sent to it. -/
  | stream (number : Nat) (unsent : Bytes)
  deriving DecidableEq, Repr

namespace Device

/-- What can be read from a device. -/
def data : Device → Bytes
  | .void | .terminal | .stream _ _ => []
  | .zeros | .full => List.replicate deviceSize 0
  | .noise => noiseFrom 65536 1

/-- The device when something has been written to it. -/
def write (data : Bytes) : Device → Device
  | .stream n unsent => .stream n (unsent ++ data)
  | d => d

/-- The device when all has been sent to it. -/
def sent : Device → Device
  | .stream n _ => .stream n []
  | d => d

/-- What is still to be sent, with the number of the stream. -/
def unsent? : Device → Option (Nat × Bytes)
  | .stream n (b :: bs) => some (n, b :: bs)
  | _ => none

theorem unsent?_sent (d : Device) : d.sent.unsent? = none := by cases d <;> rfl

/-- What is written to a stream is added to what is still to be sent. -/
theorem write_write (d : Device) (a b : Bytes) : (d.write a).write b = d.write (a ++ b) := by
  cases d <;> simp [write]

end Device

/-- What a place may hold. -/
inductive Object where
  | folder
  | file (data : Bytes) (runnable : Bool)
  | device (d : Device)
  deriving DecidableEq, Repr

/-- A tree of folders, files and devices. -/
structure Disk where
  objects : List (Place × Object)
  /-- The folder that relative paths start from. -/
  working : Place
  deriving Repr

namespace Disk

/-- The places above a place, from the root folder down. -/
def above : Place → List Place
  | [] => []
  | name :: rest => [] :: (above rest).map (name :: ·)

/-- The object that is listed for a place. -/
def stored? (d : Disk) (p : Place) : Option Object :=
  if p = [] then some .folder else d.objects.lookup p

/-- The object at a place. -/
def lookup (d : Disk) (p : Place) : Option Object :=
  if (above p).all fun q => d.stored? q = some .folder then d.stored? p else none

/-- The disk without the object at a place and everything below it. -/
def clear (d : Disk) (p : Place) : Disk :=
  { d with objects := d.objects.filter fun e => !p.isPrefixOf e.1 }

/-- The disk with an object at a place and nothing below it. -/
def put (d : Disk) (p : Place) (x : Object) : Disk :=
  { d with objects := (p, x) :: (d.clear p).objects }

/-- The disk with everything at and below one place moved to another. -/
def move (d : Disk) (source target : Place) : Disk :=
  { d with
    objects := d.objects.filterMap fun e =>
      if target.isPrefixOf e.1 then none
      else if source.isPrefixOf e.1 then some (target ++ e.1.drop source.length, e.2)
      else some e }

/-- The name of the object at `q` if it is right below `p`. -/
def nameBelow? (p q : Place) : Option Text :=
  if p.isPrefixOf q then
    match q.drop p.length with
    | [name] => some name
    | _ => none
  else none

/-- The names in a folder, in increasing order. -/
def children (d : Disk) (p : Place) : List Text :=
  Text.sortOnce <| (d.objects.filterMap fun e => nameBelow? p e.1).filter fun name =>
    (d.lookup (p ++ [name])).isSome

/-- A number of levels that no place of the disk exceeds. -/
def height (d : Disk) : Nat := (d.objects.map fun e => e.1.length).foldr max 0

/-- What is below a place, down to the given number of levels: each object right after the
objects before it and everything below them, with its names from that place on.  Only names that
are kept are entered or listed. -/
def visit (d : Disk) (keep : Text → Bool) : Nat → Place → List (Place × Object)
  | 0, _ => []
  | levels + 1, p =>
    ((d.children p).filter keep).flatMap fun name =>
      match d.lookup (p ++ [name]) with
      | none => []
      | some .folder =>
        ([name], .folder) ::
          (visit d keep levels (p ++ [name])).map fun e => (name :: e.1, e.2)
      | some x => [([name], x)]

/-- Everything below a place. -/
def below (d : Disk) (keep : Text → Bool) (p : Place) : List (Place × Object) :=
  d.visit keep d.height p

/-- What is still to be sent to streams. -/
def unsent (d : Disk) : List (Nat × Bytes) :=
  d.objects.filterMap fun e =>
    match e.2 with
    | .device x => x.unsent?
    | _ => none

/-- The disk when all has been sent. -/
def sent (d : Disk) : Disk :=
  { d with objects := d.objects.map fun e =>
      match e.2 with
      | .device x => (e.1, .device x.sent)
      | _ => e }

end Disk

end IconAssets
