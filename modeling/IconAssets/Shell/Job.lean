import IconAssets.Shell.Action

/-!
# Jobs

A job is a row of processes that a shell has started together.  The shell waits for a job in the
foreground; one in the background it remembers until somebody has waited for it and its place is
needed.
-/

namespace IconAssets
namespace Shell

namespace Job

/-- Whether all processes of a job have ended. -/
def isDone (j : Job) : Bool := j.processes.all (·.2.isSome)

/-- How the last process of a job has ended. -/
def ending (j : Job) : Ending := ((j.processes.getLast?).bind (·.2)).getD (.exited 0)

/-- The process by whose number a job is known. -/
def process? (j : Job) : Option Nat := (j.processes.getLast?).map (·.1)

/-- The job with a note of how a process has ended. -/
def noting (process : Nat) (e : Ending) (j : Job) : Job :=
  { j with processes := j.processes.map fun p => if p.1 = process then (process, some e) else p }

end Job

namespace State

/-- The number for a new job, and the state with room for it: the place of a job that has ended and
that somebody has waited for is free; each call looks at a number. -/
def claim (s : State) : Nat → Nat → State × Nat
  | 0, n => (s, n)
  | fuel + 1, n =>
    match s.jobs.find? fun j => j.number = n with
    | none => (s, n)
    | some j =>
      if j.isDone && j.awaited then ({ s with jobs := s.jobs.filter fun i => i.number ≠ n }, n)
      else claim s fuel (n + 1)

/-- The state with room for a new job, and the number for it. -/
def forJob (s : State) : State × Nat := s.claim (s.jobs.length + 1) 1

/-- Takes note of the ends of processes in the background. -/
def sweep (s : State) : State :=
  let mine := s.jobs.flatMap fun j => j.processes.map (·.1)
  let (known, others) := s.system.ended.partition fun e => e.1 ∈ mine
  { s with
    jobs := known.foldl (fun js e => js.map (Job.noting e.1 e.2)) s.jobs
    system := { s.system with ended := others } }

/-- Whether something is to be done at signals. -/
def hasTraps (s : State) : Bool := s.traps.any fun e => e.2 ≠ []

/-- The state in which a copy of a shell starts: it deals with no signals but those that are
ignored, it has no jobs, and it ends behind what it does. -/
def copied (s : State) : State :=
  { s with traps := s.traps.filter fun e => e.2 = [], loops := 0, jobs := [], final := true }

/-- The signals that are ignored in the background. -/
def backgroundSignals : List Nat := [2, 3]

/-- The state in which a copy of a shell goes on in the background. -/
def behind (s : State) : State :=
  let others := s.traps.filter fun e => e.1 ∉ backgroundSignals
  { s with traps := backgroundSignals.map (fun n => (n, [])) ++ others, watched := false }

end State

namespace Act

/-- Waits for the ends of processes, and tells of those that a signal has ended; each call waits for
one.  The answers come in the order of the ends. -/
def joinAll : Nat → List Nat → Act (List (Nat × Ending))
  | 0, _ => return []
  | fuel + 1, processes => do
    if processes = [] then return []
    let _ ← pause (.child processes none false)
    match ← reap processes with
    | none => return []
    | some (n, e) => do
      tellEnd e
      return (n, e) :: (← joinAll fuel (processes.filter (· ≠ n)))

/-- Waits for processes in the foreground; the status is that of the last one. -/
def foreground (processes : List Nat) : Act Unit := do
  let endings ← joinAll (processes.length + 1) processes
  let last := (processes.getLast?).bind fun n => endings.lookup n
  modify fun s => { s.sweep with status := (last.map Ending.status).getD 0 }

/-- Leaves nothing to read. -/
def readNothing : Act Unit := modify fun s =>
  match s.disk.number? ["dev".toList, "null".toList] with
  | some k => s.openStream 0 ⟨.node k, 0, true, false, false⟩
  | none => s.closeStream 0

/-- Makes room for a job. -/
def makeRoom : Act Nat := modifyGet fun s =>
  let (s, n) := s.forJob
  (n, s)

/-- Starts a process in the foreground and waits for it. -/
def runForeground (change : State → State) (body : Act Unit) : Act Unit := do
  let _ ← makeRoom
  foreground [← fork change body]

/-- Remembers processes as a job in the background. -/
def remember (number : Nat) (command : Text) (processes : List Nat) : Act Unit := do
  modify fun s => { s with
    jobs := ⟨number, processes.map fun n => (n, none), false, command⟩ :: s.jobs
    background := processes.getLast?
    status := 0 }

/-- What a copy of the shell writes that does something, without the newlines at its end. -/
def captured (body : Act Unit) : Act Text := do
  let _ ← makeRoom
  let before ← get
  let (system, reading, writing) := before.system.addPipe .empty
  set { before with system, held := reading :: before.held }
  let child ← fork (fun s => s.copied.setStream 1 writing) body
  let data ← drain reading ⟨.pipe (system.pipes.size - 1), 0, true, false, false⟩ maxPieces []
  modify fun s => { s with held := before.held }
  foreground [child]
  modify fun s => { s with status := before.status, taken := s.status }
  let out := ofBytes (data.filter (· ≠ 0))
  return (out.reverse.dropWhile (· = '\n')).reverse

/-- Assigns a variable, unless it may no longer be changed.  Some variables tell the shell what it
remembers. -/
def assign (env : Environment) (name value : Text) : Act Unit := do
  let s ← get
  if (s.variableOf? name).any (·.readOnly) then refuse (name ++ say ": is read only")
  else
    let s := s.assign env name value
    if name = searchVariable then set { s with tracked := [] }
    else if name = optionVariable then
      match digits? value with
      | some n => set { s with optionPlace := ⟨max n 1, none⟩ }
      | none => if value = [] then set s else refuse (say "Illegal number: " ++ value)
    else set s

end Act

end Shell
end IconAssets
