import IconAssets.Shell.State

/-!
# Tasks and actions

## Tasks

What a process does is a task.  It has come to its end, or it has come to a point where others may
go on: it waits for something, it starts another process, or it sends a signal.  Then it says how it
goes on with the answer, in the state of the system that it finds.

An action is a task that starts in a state.  It gives a value, or it leaves its place in some way.
-/

namespace IconAssets
namespace Shell

/-- What a process waits for. -/
inductive Wish where
  /-- Nothing; others may have their turn. -/
  | turn
  /-- Bytes in a pipe, or that nobody can write any. -/
  | data (pipe : Nat)
  /-- Room in a pipe, or that nobody reads it. -/
  | room (pipe : Nat)
  /-- The end of one of several processes, for so long; a signal may come in between. -/
  | child (among : List Nat) (limit : Option Int) (breakable : Bool)
  /-- A time. -/
  | moment (time : Int)
  /-- The signal to go on. -/
  | signal
  /-- Somebody who opens the other end of a pipe that has been opened to be read or written; so often
  that end had been opened before. -/
  | peer (pipe : Nat) (reads : Bool) (before : Nat)
  deriving DecidableEq, Repr

/-- What has become of a wish. -/
inductive Answer where
  | ready
  /-- There is nobody who could fulfil the wish. -/
  | gone
  /-- A signal has come. -/
  | interrupted
  /-- It took too long. -/
  | late
  deriving DecidableEq, Repr

/-- To whom a signal is sent. -/
inductive Addressee where
  | process (number : Nat)
  /-- The other processes of a group. -/
  | others (group : Nat)
  deriving DecidableEq, Repr

/-- What a process does. -/
inductive Task : Type → Type 1 where
  | ok {α : Type} (value : α) (s : State) : Task α
  | error {α : Type} (flow : Flow) (s : State) : Task α
  | pause {α : Type} (wish : Wish) (s : State) (next : Answer → State → Task α) : Task α
  /-- Starts another process in a state of its own; the answer is its number. -/
  | fork {α : Type} (child : State → Task Unit) (start s : State) (next : Nat → State → Task α) :
    Task α
  /-- Sends a signal to other processes; the answer tells whether there is one. -/
  | signal {α : Type} (target : Addressee) (number : Nat) (s : State) (next : Bool → State → Task α) :
    Task α

namespace Task

variable {α β γ : Type}

/-- Goes on behind a task, whether it gives a value or leaves its place. -/
def settle : Task α → (α → State → Task β) → (Flow → State → Task β) → Task β
  | .ok a s, onValue, _ => onValue a s
  | .error e s, _, onFlow => onFlow e s
  | .pause w s k, onValue, onFlow => .pause w s fun a s => (k a s).settle onValue onFlow
  | .fork c i s k, onValue, onFlow => .fork c i s fun n s => (k n s).settle onValue onFlow
  | .signal p n s k, onValue, onFlow => .signal p n s fun b s => (k b s).settle onValue onFlow

/-- Nothing changes if a task is taken up as it ends. -/
theorem settle_ok_error (t : Task α) : t.settle .ok .error = t := by
  induction t with
  | ok => rfl
  | error => rfl
  | pause w s k ih => simp [settle, ih]
  | fork c i s k _ ih => simp [settle, ih]
  | signal p n s k ih => simp [settle, ih]

/-- Tasks can be taken up one after the other, from either side. -/
theorem settle_settle (t : Task α) (f : α → State → Task β) (g : Flow → State → Task β)
    (f' : β → State → Task γ) (g' : Flow → State → Task γ) :
    (t.settle f g).settle f' g' =
      t.settle (fun a s => (f a s).settle f' g') fun e s => (g e s).settle f' g' := by
  induction t with
  | ok => rfl
  | error => rfl
  | pause w s k ih => simp [settle, ih]
  | fork c i s k _ ih => simp [settle, ih]
  | signal p n s k ih => simp [settle, ih]

end Task

/-- An action of a shell. -/
def Act (α : Type) : Type 1 := State → Task α

namespace Act

instance : Monad Act where
  pure a := fun s => .ok a s
  bind m f := fun s => (m s).settle (fun a s => f a s) .error

instance : MonadStateOf State Act where
  get := fun s => .ok s s
  set s := fun _ => .ok () s
  modifyGet f := fun s => let (a, s) := f s; .ok a s

instance : MonadExceptOf Flow Act where
  throw e := fun s => .error e s
  tryCatch m f := fun s => (m s).settle .ok fun e s => f e s

/-- Waits for something. -/
def pause (w : Wish) : Act Answer := fun s => .pause w s fun a s => .ok a s

/-- Starts another process, which does something in a changed state. -/
def fork (change : State → State) (child : Act Unit) : Act Nat := fun s =>
  .fork child (change s) s fun n s => .ok n s

/-- Sends a signal to another process. -/
def signal (target : Addressee) (number : Nat) : Act Bool := fun s =>
  .signal target number s fun b s => .ok b s

/-- Does something with the state changed for a while, and changes it back however it ends. -/
def during {α : Type} (change : State → State) (back : State → State → State) (body : Act α) :
    Act α :=
  fun s => (body (change s)).settle (fun a t => .ok a (back s t)) fun e t => .error e (back s t)

end Act

/-!
## Actions

The small actions of a process: reading and writing on streams, complaints, waiting for other
processes, and doing something with a part of the state changed for a while.
-/

/-- A signal that nothing survives. -/
def deadlySignal : Nat := 9

/-- The signals that do nothing where nothing is said. -/
def harmlessSignals : List Nat := [0, 17, 18, 23, 28]

/-- The signals that stop a process where nothing is said. -/
def stoppingSignals : List Nat := [19, 20, 21, 22]

/-- A signal that stops every process. -/
def stopSignal : Nat := 19

/-- The signal that lets a process go on that has been stopped. -/
def goSignal : Nat := 18

/-- What a signal does to a process. -/
inductive Reaction where
  | nothing
  | note
  | stop
  | death
  deriving DecidableEq, Repr

/-- What a signal does to a process in some state. -/
def State.reaction (s : State) (signal : Nat) : Reaction :=
  if signal = deadlySignal then .death
  else if signal = stopSignal then .stop
  else
    match s.traps.lookup signal with
    | some [] => .nothing
    | some _ => .note
    | none =>
      if signal ∈ harmlessSignals then .nothing
      else if signal ∈ stoppingSignals then .stop
      else .death

/-- The most rounds of something that goes on and on. -/
def patience : Nat := 1000000000

/-- The number of rounds of a loop behind which others have their turn. -/
def breath : Nat := 1000

namespace Act

/-- Sets the status. -/
def setStatus (n : Nat) : Act Unit := modify fun s => { s with status := n }

/-! ## Writing -/

/-- Notes that something could not be written. -/
def note (u : Unsent) : Act Unit := modify fun s => { s with unsent := s.unsent <|> some u }

/-- The signal for what is written and never read. -/
def pipeSignal : Nat := 13

/-- Learns that nobody reads a pipe: the signal for it ends the process, unless it is dealt with. -/
def breakPipe : Act Unit := do
  match (← get).traps.lookup pipeSignal with
  | none => throw (.killed pipeSignal)
  | some [] => note .broken
  | some _ => do
    modify fun s => { s with pending := s.pending ++ [pipeSignal] }
    note .broken

/-- Writes to a pipe, piece by piece as there is room; each call writes a piece or waits. -/
def fill (pipe : Nat) : Nat → Bytes → Act Unit
  | 0, _ => return
  | fuel + 1, data => do
    if data = [] then return
    match (← get).system.pipe? pipe with
    | none => return
    | some p =>
      if p.broken then breakPipe
      else
        let room := p.room data.length
        if room = 0 then do
          if (← pause (.room pipe)) = .gone then breakPipe else fill pipe fuel data
        else do
          modify fun s => { s with system := s.system.onPipe pipe (·.push (data.take room)) }
          fill pipe fuel (data.drop room)

/-- Whether there is never room on a node. -/
def isFull (v : Volume) (n : Nat) : Bool := (v.node? n).any fun n => n.body == .device .full

/-- Writes bytes to a handle of a given number. -/
def sendTo (k : Nat) (h : Handle) (data : Bytes) : Act Unit := do
  if !h.writes then note .badStream
  else
    match h.target with
    | .pipe p => fill p (2 * data.length + 2) data
    | .node n => do
      let s ← get
      if isFull s.system.volume n then note .noRoom
      else set { s with system := s.system.writeNode k n h data }

/-- Writes bytes to a stream. -/
def send (stream : Nat) (data : Bytes) : Act Unit := do
  if data = [] then return
  match (← get).handle? stream with
  | none => note .badStream
  | some (k, h) => sendTo k h data

/-- Writes to a stream. -/
def write (stream : Nat) (t : Text) : Act Unit := send stream (toBytes t)

/-- Complains about the line that is run. -/
def complain (message : Text) : Act Unit := do
  let s ← get
  let label := if s.label = [] then [] else s.label ++ say ": "
  write 2 (s.name ++ say ": " ++ Text.ofNat s.line ++ say ": " ++ label ++ message ++ ['\n'])

/-- Ends the shell with status two. -/
def fail {α : Type} : Act α := do
  setStatus 2
  throw .fault

/-- Complains, and ends the shell with status two. -/
def refuse {α : Type} (message : Text) : Act α := do
  complain message
  fail

/-! ## Reading -/

/-- Moves the place of a handle. -/
def moveHandle (k : Nat) (offset : Nat → Nat) : Act Unit := modify fun s =>
  { s with system := { s.system with
    handles := s.system.handles.modify k fun h => { h with offset := offset h.offset } } }

/-- Reads what comes next from a handle of a given number; nothing at the end. -/
def receiveFrom (k : Nat) (h : Handle) : Act Bytes := do
  if !h.reads then return []
  match h.target with
  | .node n => do
    let data := (((← get).system.volume.node? n).map Node.data).getD [] |>.drop h.offset
    moveHandle k (· + data.length)
    return data
  | .pipe p => do
    if (((← get).system.pipe? p).map Pipe.size).getD 0 = 0 then
      if (← pause (.data p)) ≠ .ready then return []
    let s ← get
    match s.system.pipe? p with
    | none => return []
    | some pipe => do
      let (data, pipe) := pipe.take
      set { s with system := s.system.onPipe p fun _ => pipe }
      return data

/-- Opens a pipe that is a node, and waits for somebody who opens the other end of it.  The handle
is held until it is released. -/
def openPipe (node : Nat) (reads writes appends : Bool) : Act Nat := do
  let s ← get
  let (system, p) := s.system.pipeOf node
  let pipe := (system.pipe? p).getD .empty
  let (system, k) := (system.notingOpened p reads writes).addHandle ⟨.pipe p, 0, reads, writes, appends⟩
  set { s with system, held := k :: s.held }
  if !(reads && writes) then
    discard (pause (.peer p reads (if reads then pipe.writings else pipe.readings)))
  return k

/-- Gives up holding a handle. -/
def release (k : Nat) : Act Unit := modify fun s => { s with held := s.held.filter (· ≠ k) }

/-- Whether a node is a pipe. -/
def isPipe (node : Nat) : Act Bool := return ((← get).system.volume.node? node).any Node.isPipe

/-- Reads what comes next on a stream; nothing at its end. -/
def receive (stream : Nat) : Act Bytes := do
  match (← get).handle? stream with
  | none => return []
  | some (k, h) => receiveFrom k h

/-- Gives back what has been read last on a stream. -/
def giveBack (stream : Nat) (data : Bytes) : Act Unit := do
  match (← get).handle? stream with
  | none => return
  | some (k, h) =>
    match h.target with
    | .node _ => moveHandle k (· - data.length)
    | .pipe p => modify fun s => { s with system := s.system.onPipe p (·.giveBack data) }

/-- The greatest number of pieces that are read. -/
def maxPieces : Nat := 1000000

/-- Reads all that comes from a handle; each call reads a piece. -/
def drain (k : Nat) (h : Handle) : Nat → List Bytes → Act Bytes
  | 0, pieces => return pieces.reverse.flatten
  | fuel + 1, pieces => do
    match ← receiveFrom k (((← get).system.handles[k]?).getD h) with
    | [] => return pieces.reverse.flatten
    | data => drain k h fuel (data :: pieces)

/-- Reads all that comes on a stream. -/
def receiveAll (stream : Nat) : Act Bytes := do
  match (← get).handle? stream with
  | none => return []
  | some (k, h) => drain k h maxPieces []

/-! ## For a while -/

/-- Does something while the statuses of its commands are looked at. -/
def watching (body : Act Unit) : Act Unit :=
  during (fun s => { s with watched := true }) (fun s t => { t with watched := s.watched }) body

/-- Does something behind which the process goes on. -/
def continuing {α : Type} (body : Act α) : Act α :=
  during (fun s => { s with final := false }) (fun s t => { t with final := s.final }) body

/-- Does something with other streams for a while; the old ones are kept open. -/
def withStreams {α : Type} (body : Act α) : Act α :=
  during (fun s => { s with held := s.streams.map (·.2) ++ s.held })
    (fun s t => { t with streams := s.streams, held := s.held }) body

/-! ## Other processes -/

/-- The words for the end by a signal. -/
def signalWords (n : Nat) : Option String :=
  [(1, "Hangup"), (3, "Quit"), (4, "Illegal instruction"), (5, "Trace/breakpoint trap"),
    (6, "Aborted"), (7, "Bus error"), (8, "Floating point exception"), (9, "Killed"),
    (10, "User defined signal 1"), (11, "Segmentation fault"), (12, "User defined signal 2"),
    (14, "Alarm clock"), (15, "Terminated"), (16, "Stack fault"),
    (24, "CPU time limit exceeded"), (25, "File size limit exceeded"),
    (26, "Virtual timer expired"), (27, "Profiling timer expired"), (29, "I/O possible"),
    (30, "Power failure"), (31, "Bad system call")].lookup n

/-- Tells of the end of a process by a signal. -/
def tellEnd : Ending → Act Unit
  | .exited _ => return
  | .killed n =>
    match signalWords n with
    | some words => write 2 (say (words ++ "\n"))
    | none => return

/-- Takes note of the end of one of several processes that has ended. -/
def reap (among : List Nat) : Act (Option (Nat × Ending)) := modifyGet fun s =>
  match s.system.ended.find? fun e => e.1 ∈ among with
  | none => (none, s)
  | some e =>
    (some e, { s with system := { s.system with
      ended := s.system.ended.filter fun f => f.1 ≠ e.1 } })

/-- Waits for the end of a process. -/
def join (process : Nat) : Act Ending := do
  let _ ← pause (.child [process] none false)
  return ((← reap [process]).map (·.2)).getD (.exited 127)

/-- Starts another process that does something, and waits for its end. -/
def besides (change : State → State) (body : Act Unit) : Act Ending := do
  join (← fork change body)

/-- Lets some time pass for the others. -/
def breathe : Act Unit := do
  let _ ← pause (.moment ((← get).system.clock + 1000000))

end Act

end Shell
end IconAssets
