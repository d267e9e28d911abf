import IconAssets.Compile.Request
import IconAssets.Log.Event

/-!
# The world of a run

What a run reads and changes: the disk, the events it has reported, the requests it has made to the
compiler, and what it has written to its streams.  A run that fails leaves the world as it is at that moment.
-/

namespace IconAssets

/-- What a run has sent to a stream. -/
structure Sending where
  stream : Nat
  /-- The number of events that were reported before. -/
  place : Nat
  data : Bytes

/-- The state of a run. -/
structure World where
  disk : Disk
  /-- The events reported so far, the oldest first. -/
  events : List Event
  /-- The requests made to the compiler so far, the oldest first. -/
  requests : List Compile.Request
  /-- What has been sent to streams so far, the oldest first. -/
  sendings : List Sending

namespace World

/-- The world before a run. -/
def ofDisk (d : Disk) : World := ⟨d, [], [], []⟩

/-- The world with another disk, and with what had to be sent to streams sent. -/
def withDisk (w : World) (d : Disk) : World :=
  match d.unsent with
  | [] => { w with disk := d }
  | more =>
    { w with
      disk := d.sent
      sendings := w.sendings ++ more.map fun s => ⟨s.1, w.events.length, s.2⟩ }

/-- What has been sent to a stream after some number of events. -/
def sentAfter (w : World) (stream place : Nat) : Bytes :=
  (w.sendings.filter fun s => s.stream = stream && s.place = place).flatMap (·.data)

/-- What has been sent to a stream. -/
def sentTo (w : World) (stream : Nat) : Bytes :=
  (w.sendings.filter fun s => s.stream = stream).flatMap (·.data)

end World

/-- Something that is done in a world and may fail. -/
abbrev Run (α : Type) := EStateM Failure World α

namespace Run

/-- Reports an event. -/
def report (e : Event) : Run Unit := modify fun w => { w with events := w.events ++ [e] }

/-- Reports several events. -/
def reportAll (es : List Event) : Run Unit := modify fun w => { w with events := w.events ++ es }

/-- Fails. -/
def fail {α : Type} (f : Failure) : Run α := throw f

/-- Does something, and something else as well if it fails.  The failure stands. -/
def onFailure {α : Type} (body : Run α) (amends : Run Unit) : Run α := fun w =>
  match body w with
  | .ok x w => .ok x w
  | .error e w =>
    match amends w with
    | .ok _ w => .error e w
    | .error _ w => .error e w

/-- Looks at the disk. -/
def disk : Run Disk := do return (← get).disk

/-- Reads from the disk during a step. -/
def read {α : Type} (s : Step) (f : Disk → Except Disk.Fault α) : Run α := do
  match f (← disk) with
  | .ok x => return x
  | .error e => fail (e.during s)

/-- Changes the disk during a step. -/
def change (s : Step) (f : Disk → Except Disk.Fault Disk) : Run Unit := do
  match f (← disk) with
  | .ok d => modify fun w => w.withDisk d
  | .error e => fail (e.during s)

/-- Makes a folder and its missing parents during a step. -/
def makeFolders (s : Step) (p : Path) : Run Unit := do
  let (d, fault) := (← disk).makeFolders p
  modify fun w => { w with disk := d }
  match fault with
  | none => return
  | some e => fail (e.during s)

end Run

end IconAssets
