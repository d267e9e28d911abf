import IconAssets.Shell.Volume.Basic

/-!
# Changing volumes

A node is made with the rights that are asked for, less those that new nodes lack.  What a node
holds changes with its number kept, so that all its names and all who have opened it see the change.

A disk is put on a volume for the programs that a machine runs, and what they have made of it is
taken off the volume again.  Of the rights of a file a disk only knows whether it may be run.
-/

namespace IconAssets
namespace Shell
namespace Volume

open Disk (Fault isTooLong)

/-- The volume with another node for a number. -/
def setNode (v : Volume) (k : Nat) (n : Node) : Volume :=
  { v with nodes := v.nodes.setIfInBounds k n }

/-- The volume with the node of a number changed. -/
def onNode (v : Volume) (k : Nat) (f : Node → Node) : Volume :=
  { v with nodes := v.nodes.modify k f }

/-- The volume with other names in a folder, which is a change of it. -/
def onEntries (v : Volume) (folder : Nat) (f : List (Text × Nat) → List (Text × Nat)) : Volume :=
  v.onNode folder fun n => { n with body := .folder (f n.entries), changed := v.clock }

/-- The volume with a name in a folder for a node. -/
def enter (v : Volume) (folder : Nat) (name : Text) (k : Nat) : Volume :=
  v.onEntries folder fun es => (name, k) :: es.filter fun e => e.1 ≠ name

/-- The rights of a new node for which some are asked. -/
def granted (v : Volume) (rights : Nat) : Nat := rights - (rights &&& v.lacking)

/-- The volume with a new node of a name in a folder. -/
def make (v : Volume) (folder : Nat) (name : Text) (body : Body) (rights : Nat) : Volume :=
  let k := v.nodes.size
  { v with nodes := v.nodes.push ⟨body, v.granted rights, v.clock⟩ }.enter folder name k

/-- The number of the folder above a place, and the last name. -/
def parentOf? (v : Volume) (p : Place) : Option (Nat × Text) :=
  match p.getLast? with
  | none => none
  | some name => (v.number? p.dropLast).map fun k => (k, name)

/-- The volume without the name of a place. -/
def clear (v : Volume) (p : Place) : Volume :=
  match v.parentOf? p with
  | none => v
  | some (folder, name) => v.onEntries folder fun es => es.filter fun e => e.1 ≠ name

/-- The volume with a name at a place for a node. -/
def attach (v : Volume) (p : Place) (k : Nat) : Volume :=
  match v.parentOf? p with
  | none => v
  | some (folder, name) => v.enter folder name k

/-- The volume with the node at one place at another one, where it takes the place of what is
there. -/
def move (v : Volume) (source target : Place) : Volume :=
  match v.number? source with
  | none => v
  | some k => if v.number? target = some k then v else (v.clear source).attach target k

/-- The volume with other data in a node; a device is written to. -/
def setData (v : Volume) (k : Nat) (data : Bytes) : Volume :=
  v.onNode k fun n =>
    match n.body with
    | .file _ => { n with body := .file data, changed := v.clock }
    | .device d => { n with body := .device (d.write data) }
    | _ => n

/-- What is still to be sent to streams. -/
def unsent (v : Volume) : List (Nat × Bytes) :=
  v.nodes.foldl (fun before n =>
    match n.body with
    | .device d => before ++ d.unsent?.toList
    | _ => before) []

/-- The volume when all has been sent. -/
def sent (v : Volume) : Volume :=
  { v with nodes := v.nodes.map fun n =>
      match n.body with
      | .device d => { n with body := .device d.sent }
      | _ => n }

/-- The volume with other rights of a node. -/
def setRights (v : Volume) (k : Nat) (rights : Nat) : Volume :=
  v.onNode k fun n => { n with rights }

/-- The volume with another time for a node. -/
def setTime (v : Volume) (k : Nat) (time : Int) : Volume :=
  v.onNode k fun n => { n with changed := time }

/-- The rights that are asked for where nothing else is said. -/
def usualRights : Nat := 438

/-- The rights that are asked for a folder. -/
def folderRights : Nat := 511

/-- Opens a file to be written: the one that is there, or a new one with rights that are asked for.
The answer is the number of the node. -/
def create (v : Volume) (p : Path) (rights : Nat) : Except Fault (Volume × Nat) :=
  match v.locate p with
  | .error e => .error e
  | .ok ⟨_, none, _⟩ => .error .isFolder
  | .ok ⟨_, some _, true⟩ => .error .isFolder
  | .ok ⟨folder, some name, false⟩ =>
    if isTooLong name then .error .nameTooLong
    else
      match v.number? folder with
      | none => .error .missing
      | some f =>
        match v.entry? f name with
        | some k =>
          if (v.node? k).any Node.isFolder then .error .isFolder
          else if (v.node? k).any Node.isAbsent then .error .noDevice
          else .ok (v, k)
        | none => .ok (v.make f name (.file []) rights, v.nodes.size)

/-- Writes a file: a new one, or in place of the content of the file that is there. -/
def writeFile (v : Volume) (p : Path) (data : Bytes) : Except Fault Volume :=
  match v.create p usualRights with
  | .error e => .error e
  | .ok (v, k) => .ok (v.setData k data)

/-- Makes a node that is not a file. -/
def makeNode (v : Volume) (p : Path) (body : Body) (rights : Nat) : Except Fault Volume :=
  match v.locate p with
  | .error e => .error e
  | .ok ⟨_, none, _⟩ => .error .taken
  | .ok ⟨folder, some name, _⟩ =>
    if isTooLong name then .error .nameTooLong
    else
      match v.number? folder with
      | none => .error .missing
      | some f =>
        match v.entry? f name with
        | some _ => .error .taken
        | none => .ok (v.make f name body rights)

/-- Makes a folder. -/
def makeFolder (v : Volume) (p : Path) : Except Fault Volume :=
  v.makeNode p (.folder []) folderRights

/-- Bytes with others in place of those from an offset on; zeros fill what is in between. -/
def splice (before : Bytes) (offset : Nat) (data : Bytes) : Bytes :=
  if before.length ≤ offset then
    before ++ List.replicate (offset - before.length) 0 ++ data
  else before.take offset ++ data ++ before.drop (offset + data.length)

theorem splice_end (before data : Bytes) : splice before before.length data = before ++ data := by
  simp [splice]

/-- What is written stands where it was written. -/
theorem drop_take_splice (before : Bytes) (offset : Nat) (data : Bytes) :
    ((splice before offset data).drop offset).take data.length = data := by
  unfold splice
  split
  · next h =>
    have : (before ++ List.replicate (offset - before.length) (0 : UInt8)).length = offset := by
      simp; omega
    rw [List.drop_append_of_le_length (by omega), List.drop_of_length_le (by omega)]
    simp
  · next h =>
    have : (before.take offset).length = offset := by simp; omega
    rw [List.append_assoc, List.drop_append_of_le_length (by omega),
      List.drop_of_length_le (by omega)]
    simp

/-- The rights of what comes from a disk. -/
def rightsOf : Object → Nat
  | .folder => 493
  | .file _ runnable => if runnable then 493 else 420
  | .device _ => 438

/-- What comes from a disk as a node. -/
def bodyOf : Object → Body
  | .folder => .folder []
  | .file data _ => .file data
  | .device d => .device d

/-- Puts an object of a disk on a volume, if the folder for it is there and its name is free. -/
def addObject (v : Volume) (e : Place × Object) : Volume :=
  match v.parentOf? e.1 with
  | none => v
  | some (folder, name) =>
    if !(v.node? folder).any Node.isFolder || (v.entry? folder name).isSome then v
    else v.make folder name (bodyOf e.2) (rightsOf e.2)

/-- The time between the making of a disk and the start of a program. -/
def head : Int := 50000000

/-- A volume with what is on a disk, at a given time. -/
def ofDisk (d : Disk) (time : Int) : Volume :=
  let start : Volume := ⟨#[⟨.folder [], 493, time - head⟩], [], 0, time - head⟩
  let ordered := d.objects.mergeSort fun a b => a.1.length ≤ b.1.length
  let v := ordered.foldl addObject start
  { v with working := d.working, lacking := 18, clock := time }

/-- What a node is on a disk; a pipe is nothing. -/
def objectOf? (n : Node) : Option Object :=
  match n.body with
  | .folder _ => some .folder
  | .file data => some (.file data n.isRunnable)
  | .device d => some (.device d)
  | .pipe _ => none

/-- The disk with what is on a volume. -/
def toDisk (v : Volume) (working : Place) : Disk :=
  ⟨(v.below []).filterMap fun e => (objectOf? e.2).map fun o => (e.1, o), working⟩

end Volume
end Shell
end IconAssets
