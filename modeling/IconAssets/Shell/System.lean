import IconAssets.Shell.Volume.Change

/-!
# What processes share

The processes of a machine share its volume, what they have opened on it, and pipes.  A handle is
something that has been opened; the streams of several processes may lead to the same handle, and
then one of them goes on where another has stopped.  What is written to a pipe stays there until
it is read.
-/

namespace IconAssets
namespace Shell

/-- How a process ends. -/
inductive Ending where
  | exited (status : Nat)
  | killed (signal : Nat)
  deriving DecidableEq, Repr

/-- The status of a process that has ended. -/
def Ending.status : Ending → Nat
  | .exited n => n
  | .killed n => 128 + n

/-- What a handle leads to. -/
inductive Target where
  | node (number : Nat)
  | pipe (number : Nat)
  deriving DecidableEq, Repr

/-- Something that has been opened. -/
structure Handle where
  target : Target
  /-- The place in a file where the next byte is read or written. -/
  offset : Nat
  reads : Bool
  writes : Bool
  /-- Whether what is written goes to the end. -/
  appends : Bool
  deriving DecidableEq, Repr

/-- A pipe. -/
structure Pipe where
  /-- The bytes that come first. -/
  front : Bytes
  /-- The pieces that have been written behind them, the last one first. -/
  back : List Bytes
  /-- The number of all these bytes. -/
  size : Nat
  /-- Whether there is always room, and somebody outside who reads. -/
  endless : Bool
  /-- Whether nobody reads any more. -/
  broken : Bool
  /-- The number of times that it has been opened by its name to be read. -/
  readings : Nat
  /-- The number of times that it has been opened by its name to be written. -/
  writings : Nat

namespace Pipe

/-- A pipe that holds bytes. -/
def holding (data : Bytes) : Pipe := ⟨data, [], data.length, false, false, 0, 0⟩

/-- A pipe without anything in it. -/
def empty : Pipe := ⟨[], [], 0, false, false, 0, 0⟩

/-- A pipe that is read outside. -/
def outward : Pipe := ⟨[], [], 0, true, false, 0, 0⟩

/-- The greatest number of bytes in a pipe. -/
def capacity : Nat := 65536

/-- The number of bytes for which there is room, of those that are to be written. -/
def room (p : Pipe) (wanted : Nat) : Nat := if p.endless then wanted else min wanted (capacity - p.size)

/-- A pipe with more bytes. -/
def push (p : Pipe) (data : Bytes) : Pipe :=
  { p with back := data :: p.back, size := p.size + data.length }

/-- All bytes in a pipe. -/
def content (p : Pipe) : Bytes := p.front ++ p.back.reverse.flatten

/-- The bytes that can be taken at once, and the pipe without them. -/
def take (p : Pipe) : Bytes × Pipe :=
  let data := if p.front = [] then p.back.reverse.flatten else p.front
  (data, { p with
    front := []
    back := if p.front = [] then [] else p.back
    size := p.size - data.length })

/-- A pipe with bytes given back. -/
def giveBack (p : Pipe) (data : Bytes) : Pipe :=
  { p with front := data ++ p.front, size := p.size + data.length }

theorem content_holding (data : Bytes) : (holding data).content = data := by
  simp [holding, content]

theorem content_push (p : Pipe) (data : Bytes) : (p.push data).content = p.content ++ data := by
  simp [push, content]

theorem content_giveBack (p : Pipe) (data : Bytes) :
    (p.giveBack data).content = data ++ p.content := by
  simp [giveBack, content]

/-- What is taken comes first, and nothing is lost. -/
theorem content_take (p : Pipe) : p.take.1 ++ p.take.2.content = p.content := by
  unfold take content
  by_cases h : p.front = [] <;> simp [h]

end Pipe

/-- What processes share. -/
structure System where
  volume : Volume
  handles : Array Handle
  pipes : Array Pipe
  /-- The number of the newest process. -/
  newest : Nat
  /-- The processes that have ended and have not been waited for. -/
  ended : List (Nat × Ending)

namespace System

/-- A system without anything. -/
def empty : System := ⟨⟨#[], [], 0, 0⟩, #[], #[], 0, []⟩

/-- The pipe of a number. -/
def pipe? (y : System) (k : Nat) : Option Pipe := y.pipes[k]?

/-- The system with a pipe changed. -/
def onPipe (y : System) (k : Nat) (f : Pipe → Pipe) : System := { y with pipes := y.pipes.modify k f }

/-- The system with a new handle, and its number. -/
def addHandle (y : System) (h : Handle) : System × Nat :=
  ({ y with handles := y.handles.push h }, y.handles.size)

/-- The system with a new pipe, and the numbers of the handles that read and write it. -/
def addPipe (y : System) (p : Pipe) : System × Nat × Nat :=
  let k := y.pipes.size
  let (y, reading) := { y with pipes := y.pipes.push p }.addHandle ⟨.pipe k, 0, true, false, false⟩
  let (y, writing) := y.addHandle ⟨.pipe k, 0, false, true, false⟩
  (y, reading, writing)

/-- The time. -/
def clock (y : System) : Int := y.volume.clock

/-- The pipe for a node that is one, which is made when the node is opened for the first time. -/
def pipeOf (y : System) (node : Nat) : System × Nat :=
  match (y.volume.node? node).map Node.body with
  | some (.pipe (some p)) => (y, p)
  | _ =>
    let p := y.pipes.size
    ({ y with
      pipes := y.pipes.push .empty
      volume := y.volume.onNode node fun n => { n with body := .pipe (some p) } }, p)

/-- The system where a pipe has been opened by its name. -/
def notingOpened (y : System) (pipe : Nat) (reads writes : Bool) : System :=
  y.onPipe pipe fun p =>
    { p with
      broken := p.broken && !reads
      readings := if reads then p.readings + 1 else p.readings
      writings := if writes then p.writings + 1 else p.writings }

/-- The system at a later time. -/
def later (y : System) (time : Int) : System :=
  { y with volume := { y.volume with clock := max y.volume.clock time } }

/-- Writes to a node at the place of a handle; the handle goes on behind it. -/
def writeNode (y : System) (handle node : Nat) (h : Handle) (data : Bytes) : System :=
  match y.volume.node? node with
  | some ⟨.file before, _, _⟩ =>
    let offset := if h.appends then before.length else h.offset
    { y with
      volume := y.volume.setData node (Volume.splice before offset data)
      handles := y.handles.setIfInBounds handle { h with offset := offset + data.length } }
  | _ => y

/-- The node that stands for what a handle leads to. -/
def nodeOf (y : System) (h : Handle) : Option Node :=
  match h.target with
  | .node k => y.volume.node? k
  | .pipe _ => some ⟨.pipe none, 384, y.clock⟩

end System

end Shell
end IconAssets
