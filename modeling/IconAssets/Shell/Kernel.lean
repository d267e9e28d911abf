import IconAssets.Shell.Action

/-!
# Kernels

A kernel runs the processes of a machine.  A process runs until it waits for something; then the
first one in the row goes on that has got what it waits for.  If there is none, time passes up to
the next moment that somebody waits for.

Nobody can write to a pipe that no process has opened for that, and what is written to a pipe that no
process has opened to read it is lost.
-/

namespace IconAssets
namespace Shell

/-- A process that waits. -/
structure Waiting where
  process : Nat
  wish : Wish
  /-- The state of the process; the system in it is that of an earlier time. -/
  state : State
  next : Answer → State → Task Unit
  /-- The signals that it gets when it goes on, if it has been stopped. -/
  stopped : Option (List Nat)

/-- The processes of a machine, in the order in which they have started to wait. -/
structure Kernel where
  system : System
  row : List Waiting

namespace Waiting

/-- The numbers of the handles that a process has opened. -/
def handles (w : Waiting) : List Nat := w.state.streams.map (·.2) ++ w.state.held

/-- Whether a process has opened a pipe in some way. -/
def holds (w : Waiting) (y : System) (pipe : Nat) (way : Handle → Bool) : Bool :=
  w.handles.any fun k => (y.handles[k]?).any fun h => h.target == .pipe pipe && way h

/-- The moment at which a process goes on whatever happens, but for signals. -/
def limit? (w : Waiting) : Option Int :=
  if w.stopped.isSome then none
  else match w.wish with
  | .moment t => some t
  | .child _ limit _ => limit
  | _ => none

end Waiting

/-- The signal for the end of a process that has been started. -/
def childSignal : Nat := 17

namespace Kernel

/-- Whether a process has opened a pipe in some way. -/
def isHeld (k : Kernel) (pipe : Nat) (way : Handle → Bool) : Bool :=
  k.row.any fun w => w.holds k.system pipe way

/-- What has become of the wish of a process; none if it has to wait. -/
def answer? (k : Kernel) (w : Waiting) : Option Answer :=
  if w.stopped.isSome then none
  else match w.wish with
  | .turn | .signal => some .ready
  | .moment t => if t ≤ k.system.clock then some .ready else none
  | .data p =>
    match k.system.pipe? p with
    | none => some .gone
    | some pipe =>
      if 0 < pipe.size then some .ready
      else if k.isHeld p (·.writes) then none
      else some .gone
  | .peer p reads before =>
    match k.system.pipe? p with
    | none => some .gone
    | some pipe =>
      let after := if reads then pipe.writings else pipe.readings
      if after ≠ before || k.isHeld p (if reads then (·.writes) else (·.reads)) then some .ready
      else none
  | .room p =>
    match k.system.pipe? p with
    | none => some .gone
    | some pipe =>
      if pipe.endless then some .ready
      else if !k.isHeld p (·.reads) then some .gone
      else if 0 < pipe.room 1 then some .ready
      else none
  | .child among limit breakable =>
    if k.system.ended.any fun e => e.1 ∈ among then some .ready
    else if breakable && !w.state.pending.isEmpty then some .interrupted
    else if !k.row.any fun v => v.process ∈ among then some .gone
    else if limit.any (· ≤ k.system.clock) then some .late
    else none

/-- Marks the pipes that a process could write to and that nobody reads. -/
def markBroken (k : Kernel) (w : Waiting) (y : System) : System :=
  w.handles.foldl mark y
where
  /-- Marks the pipe of one handle. -/
  mark (y : System) (n : Nat) : System :=
    match (y.handles[n]?).filter (·.writes) with
    | some ⟨.pipe p, _, _, _, _⟩ =>
      y.onPipe p fun pipe =>
        { pipe with broken := !pipe.endless && !w.holds y p (·.reads) && !k.isHeld p (·.reads) }
    | _ => y

/-- Lets a process know of a signal. -/
def notify (k : Kernel) (process signal : Nat) : Kernel :=
  { k with row := k.row.map fun w =>
    if w.process = process then
      { w with state := { w.state with pending := w.state.pending ++ [signal] } }
    else w }

/-- Takes note of the end of a process, of which the one that has started it may want to know. -/
def finish (k : Kernel) (process parent : Nat) (e : Ending) : Kernel :=
  let k := { k with system := { k.system with ended := k.system.ended ++ [(process, e)] } }
  match k.row.find? fun w => w.process = parent with
  | some w => if w.state.reaction childSignal = .note then k.notify parent childSignal else k
  | none => k

/-- Stops a process, lets it go on, or keeps signals from it while it is stopped. -/
def hold (k : Kernel) (process : Nat) (stopped : Option (List Nat)) : Kernel :=
  { k with row := k.row.map fun w => if w.process = process then { w with stopped } else w }

/-- Sends a signal to a process that waits and has not been stopped. -/
def strikeFree (signal : Nat) (k : Kernel) (w : Waiting) : Kernel :=
  match w.state.reaction signal with
  | .nothing => k
  | .note => k.notify w.process signal
  | .stop => k.hold w.process (some [])
  | .death =>
    { k with row := k.row.filter fun v => v.process ≠ w.process }.finish w.process w.state.parent
      (.killed signal)

/-- Sends a signal to a process that waits. -/
def strike (signal : Nat) (k : Kernel) (w : Waiting) : Kernel :=
  match w.stopped with
  | none => strikeFree signal k w
  | some kept =>
    if signal = goSignal then
      (kept ++ [signal]).foldl (fun k signal =>
        match k.row.find? fun v => v.process = w.process with
        | some v => strikeFree signal k v
        | none => k) (k.hold w.process none)
    else if signal = deadlySignal then strikeFree signal k w
    else k.hold w.process (some (kept ++ [signal]))

/-- Sends a signal; the answer tells whether there is somebody to whom it has been sent. -/
def deliver (k : Kernel) (target : Addressee) (signal : Nat) : Kernel × Bool :=
  let struck := k.row.filter fun w =>
    match target with
    | .process n => w.process = n
    | .others g => w.state.group = g
  let isEnded := match target with
    | .process n => k.system.ended.any fun e => e.1 = n
    | .others _ => false
  (struck.foldl (strike signal) k, isEnded || !struck.isEmpty)

/-- Whether a process waits for the other end of a pipe to be opened. -/
def awaitsPeer (w : Waiting) : Bool :=
  match w.wish with
  | .peer _ _ _ => true
  | _ => false

/-- Puts a process at the end of the row.  One that finds the other end of a pipe open has got what it
waits for, even if that end is closed before its turn comes. -/
def enqueue (k : Kernel) (w : Waiting) : Kernel :=
  let w := if awaitsPeer w && (k.answer? w).isSome then { w with wish := .turn } else w
  { k with row := k.row ++ [w] }

/-- The state of a process that starts. -/
def starting (start : State) (process parent : Nat) (system : System) : State :=
  { start with process, parent, system, pending := [], held := [] }

/-- Runs a process until it waits or ends. -/
def advance : {α : Type} → Task α → α = Unit → Nat → Kernel → Kernel
  | _, .ok _ s, _, n, k => { k with system := s.system }.finish n s.parent (.exited s.status)
  | _, .error (.killed signal) s, _, n, k =>
    { k with system := s.system }.finish n s.parent (.killed signal)
  | _, .error _ s, _, n, k => { k with system := s.system }.finish n s.parent (.exited s.status)
  | _, .pause w s next, h, n, k =>
    { k with system := s.system }.enqueue
      ⟨n, w, { s with system := .empty }, h ▸ next, if w = Wish.signal then some [] else none⟩
  | _, .fork child start s next, h, n, k =>
    let m := s.system.newest + 1
    let k := k.enqueue ⟨m, .turn, starting start m n .empty, fun _ => child, none⟩
    advance (next m { s with system := { s.system with newest := m } }) h n k
  | _, .signal target signal s next, h, n, k =>
    let (k, found) := { k with system := s.system }.deliver target signal
    advance (next found { s with system := k.system }) h n k

/-- The first process in a row that has got what it waits for, and the others. -/
def ready? (k : Kernel) : List Waiting → List Waiting → Option (Waiting × Answer × List Waiting)
  | _, [] => none
  | before, w :: after =>
    match k.answer? w with
    | some a => some (w, a, before.reverse ++ after)
    | none => ready? k (w :: before) after

/-- Lets a process go on. -/
def resume (k : Kernel) (w : Waiting) (a : Answer) (others : List Waiting) : Kernel :=
  let k := { k with row := others }
  let system := k.markBroken w k.system
  advance (w.next a { w.state with system }) rfl w.process k

/-- The next moment at which a process goes on whatever happens. -/
def nextMoment? (k : Kernel) : Option Int := (k.row.filterMap Waiting.limit?).min?

/-- Whether nobody outside has anything to wait for: a process has ended, and no other one can write
to a pipe that is read outside. -/
def isOver (k : Kernel) (process : Nat) : Bool :=
  !k.row.any fun w => w.process = process || w.handles.any leadsOut
where
  /-- Whether a handle leads to a pipe that is read outside. -/
  leadsOut (n : Nat) : Bool :=
    match k.system.handles[n]? with
    | some ⟨.pipe p, _, _, _, _⟩ => (k.system.pipe? p).any (·.endless)
    | _ => false

/-- Runs processes, as long as somebody outside has something to wait for; each call lets a process
go on, or time pass. -/
def run (process : Nat) : Nat → Kernel → Kernel
  | 0, k => k
  | fuel + 1, k =>
    match k.ready? [] k.row with
    | some (w, a, others) => run process fuel (k.resume w a others)
    | none =>
      match k.nextMoment? with
      | none => k
      | some time =>
        if k.isOver process then k else run process fuel { k with system := k.system.later time }

end Kernel
end Shell
end IconAssets
