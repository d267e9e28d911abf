import IconAssets.Disk.Walk

/-!
# Reading and changing disks

Each operation takes a path.  It either succeeds or leaves the disk as it was; only the making of a
row of folders may stop half way.
-/

namespace IconAssets
namespace Disk

/-- The content of a file, or what can be read from a device. -/
def readFile (d : Disk) (p : Path) : Except Fault Bytes :=
  match d.resolve p with
  | .error e => .error e
  | .ok place =>
    match d.lookup place with
    | some (.file data _) => .ok data
    | some (.device .terminal) => .error .noDevice
    | some (.device x) => .ok x.data
    | some .folder => .error .isFolder
    | none => .error .missing

/-- The content of a file that is UTF-8. -/
def readText (d : Disk) (p : Path) : Except Fault Text :=
  match d.readFile p with
  | .error e => .error e
  | .ok data =>
    match Utf8.decode data with
    | some t => .ok t
    | none => .error .notText

/-- Writes a file: a new one, or in place of the content of the file that is there; or to a device. -/
def writeFile (d : Disk) (p : Path) (data : Bytes) : Except Fault Disk :=
  match d.locate p with
  | .error e => .error e
  | .ok ⟨_, none, _⟩ => .error .isFolder
  | .ok ⟨_, some _, true⟩ => .error .isFolder
  | .ok ⟨folder, some name, false⟩ =>
    if isTooLong name then .error .nameTooLong
    else
      match d.lookup (folder ++ [name]) with
      | some .folder => .error .isFolder
      | some (.device .terminal) => .error .noDevice
      | some (.device .full) => if data = [] then .ok d else .error .noRoom
      | some (.device x) => .ok (d.put (folder ++ [name]) (.device (x.write data)))
      | some (.file _ runnable) => .ok (d.put (folder ++ [name]) (.file data runnable))
      | none => .ok (d.put (folder ++ [name]) (.file data false))

/-- Makes a folder. -/
def makeFolder (d : Disk) (p : Path) : Except Fault Disk :=
  match d.locate p with
  | .error e => .error e
  | .ok ⟨_, none, _⟩ => .error .taken
  | .ok ⟨folder, some name, _⟩ =>
    if isTooLong name then .error .nameTooLong
    else
      match d.lookup (folder ++ [name]) with
      | some _ => .error .taken
      | none => .ok (d.put (folder ++ [name]) .folder)

/-- Makes the first folder of a list, whose parents are the folders behind it.  A folder that is
there already will do. -/
def makeFirst (d : Disk) : List Path → Disk × Option Fault
  | [] => (d, none)
  | p :: parents =>
    match d.makeFolder p with
    | .ok d => (d, none)
    | .error .missing =>
      match makeFirst d parents with
      | (d, some e) => (d, some e)
      | (d, none) =>
        match d.makeFolder p with
        | .ok d => (d, none)
        | .error e => (d, if d.isFolder p then none else some e)
    | .error e => (d, if d.isFolder p then none else some e)

/-- A path and its parents, as far as there is a folder to be made; at most `room` of them. -/
def chain : Nat → Path → List Path
  | 0, _ => []
  | room + 1, p =>
    match p.parent? with
    | none => []
    | some parent => p :: chain room parent

/-- Makes a folder together with its missing parents. -/
def makeFolders (d : Disk) (p : Path) : Disk × Option Fault :=
  d.makeFirst (chain (p.text.length + 1) p)

/-- Removes a folder and everything in it. -/
def removeFolder (d : Disk) (p : Path) : Except Fault Disk :=
  match d.resolve p with
  | .error e => .error e
  | .ok place =>
    match d.lookup place with
    | some .folder => .ok (d.clear place)
    | some _ => .error .notFolder
    | none => .error .missing

/-- Moves an object to a place where nothing is. -/
def rename (d : Disk) (source target : Path) : Except Fault Disk :=
  match d.resolve source with
  | .error e => .error e
  | .ok place =>
    match d.locate target with
    | .error e => .error e
    | .ok ⟨_, none, _⟩ => .error .taken
    | .ok ⟨folder, some name, _⟩ =>
      if isTooLong name then .error .nameTooLong
      else
        match d.lookup (folder ++ [name]) with
        | some _ => .error .taken
        | none => .ok (d.move place (folder ++ [name]))

end Disk

end IconAssets
