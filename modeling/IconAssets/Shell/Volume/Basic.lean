import IconAssets.Disk.Walk

/-!
# Volumes

A volume is how a machine keeps what is on its disk: nodes with numbers, each a folder, a file or a
device, together with its rights and the time of its last change.  A folder gives names to nodes.
A file may have several names, and it stays while no name is left, for those who have opened it.

The root folder is the node with number zero.  Times are numbers of nanoseconds.
-/

namespace IconAssets
namespace Shell

/-- What a node is. -/
inductive Body where
  /-- The names in a folder and the numbers of their nodes, the last one first. -/
  | folder (entries : List (Text × Nat))
  | file (data : Bytes)
  | device (d : Device)
  /-- A pipe with a name; none has gone through it so far if it has no number. -/
  | pipe (number : Option Nat)
  deriving DecidableEq

/-- A node of a volume. -/
structure Node where
  body : Body
  /-- The rights, in the twelve bits that are usual for them. -/
  rights : Nat
  /-- The time of the last change. -/
  changed : Int
  deriving DecidableEq

/-- The nodes of a machine as one of its processes sees them. -/
structure Volume where
  nodes : Array Node
  /-- The folder that relative paths start from. -/
  working : Place
  /-- The rights that new nodes lack. -/
  lacking : Nat
  /-- The time. -/
  clock : Int

namespace Node

/-- Whether a node is a folder. -/
def isFolder (n : Node) : Bool :=
  match n.body with
  | .folder _ => true
  | _ => false

/-- Whether a node is a file. -/
def isFile (n : Node) : Bool :=
  match n.body with
  | .file _ => true
  | _ => false

/-- Whether a node is a device. -/
def isDevice (n : Node) : Bool :=
  match n.body with
  | .device _ => true
  | _ => false

/-- Whether a node is a device that is not there. -/
def isAbsent (n : Node) : Bool :=
  match n.body with
  | .device .terminal => true
  | _ => false

/-- Whether a node is a pipe. -/
def isPipe (n : Node) : Bool :=
  match n.body with
  | .pipe _ => true
  | _ => false

/-- The bits of the rights to run. -/
def runBits : Nat := 73

/-- Whether a node may be run, or entered. -/
def isRunnable (n : Node) : Bool := n.rights &&& runBits ≠ 0

/-- The names in a folder with the numbers of their nodes. -/
def entries (n : Node) : List (Text × Nat) :=
  match n.body with
  | .folder es => es
  | _ => []

/-- What can be read. -/
def data (n : Node) : Bytes :=
  match n.body with
  | .file data => data
  | .device d => d.data
  | .folder _ | .pipe _ => []

/-- The number of bytes that a file holds. -/
def size (n : Node) : Nat :=
  match n.body with
  | .file data => data.length
  | .folder _ => 4096
  | .device _ | .pipe _ => 0

end Node

namespace Volume

/-- The number of the root folder. -/
def root : Nat := 0

/-- The node with a number. -/
def node? (v : Volume) (k : Nat) : Option Node := v.nodes[k]?

/-- The number of the node of a name in a folder. -/
def entry? (v : Volume) (folder : Nat) (name : Text) : Option Nat :=
  (v.node? folder).bind fun n => n.entries.lookup name

/-- The number of the node that a row of names leads to from a folder. -/
def numberFrom? (v : Volume) : Nat → Place → Option Nat
  | k, [] => some k
  | k, name :: rest => (v.entry? k name).bind fun k => v.numberFrom? k rest

/-- The number of the node at a place. -/
def number? (v : Volume) (p : Place) : Option Nat := v.numberFrom? root p

/-- The node at a place. -/
def lookup (v : Volume) (p : Place) : Option Node := (v.number? p).bind v.node?

/-- Whether there is a folder at a place. -/
def isFolderAt (v : Volume) (p : Place) : Bool := (v.lookup p).any Node.isFolder

/-- The names in a folder, in increasing order. -/
def children (v : Volume) (p : Place) : List Text :=
  match v.lookup p with
  | some n => Text.sortOnce (n.entries.map (·.1))
  | none => []

/-- A number of levels that no place exceeds. -/
def height (v : Volume) : Nat := v.nodes.size

/-- What is below a place, down to the given number of levels: each node right after those before
it and everything below them, with its names from that place on. -/
def visit (v : Volume) : Nat → Place → List (Place × Node)
  | 0, _ => []
  | levels + 1, p =>
    (v.children p).flatMap fun name =>
      match v.lookup (p ++ [name]) with
      | none => []
      | some n =>
        ([name], n) ::
          if n.isFolder then (visit v levels (p ++ [name])).map fun e => (name :: e.1, e.2) else []

/-- Everything below a place. -/
def below (v : Volume) (p : Place) : List (Place × Node) := v.visit v.height p

/-- The number of names of a node; a folder is named by itself and by the folders in it, too. -/
def links (v : Volume) (k : Nat) : Nat :=
  match v.node? k with
  | none => 0
  | some n =>
    if n.isFolder then
      2 + (n.entries.filter fun e => (v.node? e.2).any Node.isFolder).length
    else
      v.nodes.foldl (fun m n => m + (n.entries.filter fun e => e.2 = k).length) 0

theorem number?_nil (v : Volume) : v.number? [] = some root := rfl

/-- A row of names is followed piece by piece. -/
theorem numberFrom?_append (v : Volume) (k : Nat) (p q : Place) :
    v.numberFrom? k (p ++ q) = (v.numberFrom? k p).bind fun k => v.numberFrom? k q := by
  induction p generalizing k with
  | nil => rfl
  | cons name p ih =>
    simp only [List.cons_append, numberFrom?]
    cases v.entry? k name with
    | none => rfl
    | some j => exact ih j

end Volume

/-!
## Following paths on volumes

A path is followed piece by piece, as on a disk, from the root folder or from the folder that
relative paths start from.
-/

namespace Volume

open Disk (Fault Spot isUp isTooLong textFault?)

/-- Goes one piece on from a place. -/
def step (v : Volume) (here : Place) (piece : Text) : Except Fault Place :=
  if !v.isFolderAt here then .error .notFolder
  else if Path.isIdle piece then .ok here
  else if isUp piece then .ok here.dropLast
  else if isTooLong piece then .error .nameTooLong
  else
    match v.lookup (here ++ [piece]) with
    | none => .error .missing
    | some _ => .ok (here ++ [piece])

/-- Goes on from a place, piece by piece. -/
def walk (v : Volume) : Place → List Text → Except Fault Place
  | here, [] => .ok here
  | here, piece :: pieces =>
    match v.step here piece with
    | .error e => .error e
    | .ok next => walk v next pieces

/-- The place where a path starts. -/
def start (v : Volume) (p : Path) : Place := if p.isAbsolute then [] else v.working

/-- The place of the node that a path names. -/
def resolve (v : Volume) (p : Path) : Except Fault Place :=
  match textFault? p with
  | some e => .error e
  | none => v.walk (v.start p) (Text.pieces '/' p.text)

/-- Locates the node that a path is to make. -/
def locate (v : Volume) (p : Path) : Except Fault Spot :=
  match textFault? p with
  | some e => .error e
  | none =>
    let reversed := (Text.pieces '/' p.text).reverse
    let slash := reversed.head? = some []
    match reversed.dropWhile (· = []) with
    | [] => .ok ⟨[], none, slash⟩
    | last :: before =>
      match v.walk (v.start p) before.reverse with
      | .error e => .error e
      | .ok folder =>
        if !v.isFolderAt folder then .error .notFolder
        else if Path.isIdle last || isUp last then .ok ⟨folder, none, slash⟩
        else .ok ⟨folder, some last, slash⟩

/-- The number of the node that a path names. -/
def numberOf? (v : Volume) (p : Path) : Option Nat :=
  match v.resolve p with
  | .error _ => none
  | .ok place => v.number? place

/-- The node that a path names. -/
def find? (v : Volume) (p : Path) : Option Node := (v.numberOf? p).bind v.node?

/-- Whether a path names a node. -/
def hasObject (v : Volume) (p : Path) : Bool := (v.find? p).isSome

/-- Whether a path names a folder. -/
def isFolder (v : Volume) (p : Path) : Bool := (v.find? p).any Node.isFolder

/-- Whether a path names a file. -/
def isFile (v : Volume) (p : Path) : Bool := (v.find? p).any Node.isFile

/-- What can be read at a path. -/
def readFile (v : Volume) (p : Path) : Except Fault Bytes :=
  match v.resolve p with
  | .error e => .error e
  | .ok place =>
    match v.lookup place with
    | none => .error .missing
    | some n =>
      if n.isFolder then .error .isFolder
      else if n.isAbsent then .error .noDevice
      else .ok n.data

end Volume

end Shell
end IconAssets
