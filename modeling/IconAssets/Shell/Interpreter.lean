import IconAssets.Shell.Dispatch

/-!
# Running commands

How commands are run by an engine for their parts, and engines for all commands that are not nested
too deeply.
-/

namespace IconAssets
namespace Shell

/-- The number of commands in front of others. -/
def maxFronts : Nat := 64

/-- What stands in front of commands that are shown: the value of a variable, in which parameters and
scripts count.  Their own commands are not shown. -/
def shownFront (env : Environment) (e : Engine) : Act Text := do
  let s ← get
  let status := s.status
  let front := match s.variableOf? "PS4".toList with
    | some v => v.value.getD []
    | none => ['+', ' ']
  if front.all fun c => c ≠ '$' && c ≠ '\\' && c ≠ backquote then return front
  let text : Act Text :=
    match readQuoted front with
    | .error r => do
      Act.refuseScript r
      return front
    | .ok w => expandText env (e.scriptsInWords env) w
  Act.during (fun s => { s with options := Switch.turn .xtrace false s.options })
    (fun s t => { t with options := s.options, line := s.line })
    (fun s => (text s).settle (fun t s => .ok t s) fun e s =>
      if e = .fault then .ok front { s with status := status } else .error e s)

/-- Writes a command to the stream for complaints as it was before the redirections of the command,
if the option for it is on. -/
def traced (env : Environment) (e : Engine) (streams : List (Nat × Nat))
    (assigned : List (Text × Text)) (fields : List Text) : Act Unit := do
  if (← get).has .xtrace then
    let front ← shownFront env e
    let words := assigned.map (fun a => a.1 ++ '=' :: a.2) ++ fields
    Act.during (fun s => { s with streams }) (fun s t => { t with streams := s.streams })
      (Act.write 2 (front ++ Text.glue ' ' words ++ ['\n']))

/-- The values of assignments. -/
def assignments (env : Environment) (e : Engine) :
    List (Text × Word) → Act (List (Text × Text))
  | [] => return []
  | (name, w) :: more => do
    let value ← assignedText env e w
    Act.assign env name value
    return (name, value) :: (← assignments env e more)

/-- The values of assignments for a while, and what the variables were, the last first. -/
def briefAssignments (env : Environment) (e : Engine) (olds : List (Text × Option Variable)) :
    List (Text × Word) → Act (List (Text × Text) × List (Text × Option Variable))
  | [] => return ([], olds)
  | (name, w) :: more => do
    let value ← assignedText env e w
    let old := (← get).variableOf? name
    Act.assignShared env name value
    let (values, olds) ← briefAssignments env e ((name, old) :: olds) more
    return ((name, value) :: values, olds)

/-- The commands whose arguments are assigned as they are. -/
def declarators : List Text := ["alias", "export", "local", "readonly"].map String.toList

/-- Whether the command that fields begin is one whose arguments are assigned as they are; none if
the fields do not tell yet. -/
def declares? (s : State) : Nat → List Text → Option Bool
  | 0, _ => none
  | _ + 1, [] => none
  | fuel + 1, name :: rest =>
    let isFunction : Bool := name ∉ reservedNames && (s.functions.lookup name).isSome
    if isFunction then some false
    else if name = "command".toList then
      let behind := rest.dropWhile (· = ['-', 'p'])
      declares? s fuel (if behind.head? = some ['-', '-'] then behind.drop 1 else behind)
    else some (name ∈ declarators)

/-- The fields of a command, given those of its first words. -/
def fieldsBehind (env : Environment) (e : Engine) (before : List Text) : List Word → Act (List Text)
  | [] => return before
  | w :: ws => do
    let declares := declares? (← get) maxFronts before = some true
    match if declares then assignment? w else none with
    | some (name, value) => do
      let t ← assignedText env e value
      fieldsBehind env e (before ++ [name ++ '=' :: t]) ws
    | none => fieldsBehind env e (before ++ (← wordFields env e [w])) ws

/-- Runs a simple command. -/
def runSimple (env : Environment) (e : Engine) (as : List (Text × Word)) (ws : List Word)
    (rs : List Redirection) : Act Unit := do
  modify fun s => { s with taken := 0 }
  let streams := (← get).streams
  match ← fieldsBehind env e [] ws with
  | [] => do
    let os ← openings env e rs
    Act.withStreams do
      if ← Opening.performAll (wordText env e) os then do
        let assigned ← assignments env e as
        if assigned ≠ [] then traced env e streams assigned []
        modify fun s => { s with status := s.taken }
  | name :: args => do
    let os ← openings env e rs
    let isSpecial : Bool := name ∈ reservedNames
    let body : Act Unit := do
      if !(← Opening.performAll (wordText env e) os) then
        if isSpecial then throw .fault
      else if isSpecial then do
        traced env e streams (← assignments env e as) (name :: args)
        runWords env e maxFronts true name args
      else do
        let (assigned, olds) ← briefAssignments env e [] as
        traced env e streams assigned (name :: args)
        Act.restoring olds (runWords env e maxFronts true name args)
    if name = "exec".toList && args = [] then body else Act.withStreams body

/-- Runs the rounds of a loop with a condition; the status is that of the last round. -/
def rounds (test : Act Unit) (whileTrue : Bool) (body : Act Unit) : Nat → Nat → Act Unit
  | 0, _ => throw (.killed deadlySignal)
  | fuel + 1, status => do
    if fuel % breath = 0 then Act.breathe
    if !(← Act.inLoop (Act.watching test)) then return
    if ((← get).status = 0) ≠ whileTrue then Act.setStatus status
    else if ← Act.inLoop body then rounds test whileTrue body fuel (← get).status
    else return

/-- Runs the rounds of a loop over values. -/
def eachRound (env : Environment) (name : Text) (body : Act Unit) : List Text → Act Unit
  | [] => return
  | v :: vs => do
    Act.assign env name v
    if ← Act.inLoop body then eachRound env name body vs else return

/-- Does something inside one more loop. -/
def deeper (body : Act Unit) : Act Unit :=
  Act.during (fun s => { s with loops := s.loops + 1 }) (fun s t => { t with loops := s.loops })
    (Act.continuing body)

/-- Starts commands, each of which reads what the one before writes; `input` is the handle that the
first one reads, if it is not the shell's own, and `settled` is what each does to its state.  The
answer is the numbers of the processes. -/
def startStages (env : Environment) (e : Engine) (settled : State → State) :
    Option Nat → List Command → Act (List Nat)
  | _, [] => return []
  | input, [c] => do
    return [← Act.fork (fun s => withInput input s.copied) (stage c)]
  | input, c :: d :: cs => do
    let s ← get
    let (system, reading, writing) := s.system.addPipe .empty
    set { s with system }
    let first ← Act.fork (fun s => (withInput input s.copied).setStream 1 writing) (stage c)
    return first :: (← startStages env e settled (some reading) (d :: cs))
where
  /-- Runs one of the commands. -/
  stage (c : Command) : Act Unit := do
    modify settled
    finishing env e (e.run env c)
  /-- The state with a handle as the input. -/
  withInput (input : Option Nat) (s : State) : State :=
    match input with
    | some k => s.setStream 0 k
    | none => s

/-- Runs commands one after the other in the background. -/
def runBehind (env : Environment) (e : Engine) (stages : List Command) : Act Unit := do
  let number ← Act.makeRoom
  let processes ← match stages with
    | [] => pure []
    | c :: cs => do
      let s ← get
      Act.readNothing
      let all ← startStages env e State.behind none (c :: cs)
      modify fun t => { t with streams := s.streams }
      pure all
  Act.remember number ((List.replicate (stages.length - 1) (say " | ")).flatten) processes

/-- The body of the first arm with a pattern that a text matches. -/
def armOf (env : Environment) (e : Engine) (t : Text) :
    List (List Word × Command) → Act (Option Command)
  | [] => return none
  | (patterns, body) :: arms => do
    if ← anyMatches patterns then return some body else armOf env e t arms
where
  /-- Whether a text matches one of several patterns. -/
  anyMatches : List Word → Act Bool
    | [] => return false
    | w :: ws => do
      let p ← expandPattern env (e.scriptsInWords env) (withHome env (← get) w)
      if Pattern.matchesText p t then return true else anyMatches ws

/-- Runs a command by an engine for its parts. -/
def runPlain (env : Environment) (e : Engine) (c : Command) : Act Unit := do
  let onLine (line : Nat) : Act Unit := modify fun s => { s with line }
  match c with
  | .nothing => return
  | .simple line as ws rs => do
    onLine line
    Act.checked (runSimple env e as ws rs)
  | .redirected line body rs => do
    onLine line
    redirected env e rs (e.run env body)
  | .pipe stages =>
    Act.checked do
      let _ ← Act.makeRoom
      Act.foreground (← startStages env e id none stages)
  | .background (.pipe stages) => runBehind env e stages
  | .background body => runBehind env e [body]
  | .negate body => do
    Act.watching (Act.continuing (e.run env body))
    modify fun s => { s with status := if s.status = 0 then 1 else 0 }
  | .both left right => do
    Act.watching (Act.continuing (e.run env left))
    if (← get).status = 0 then e.run env right
  | .either left right => do
    Act.watching (Act.continuing (e.run env left))
    if (← get).status ≠ 0 then e.run env right
  | .sequence left right => do
    Act.continuing (e.run env left)
    e.run env right
  | .choice test yes no => do
    Act.watching (Act.continuing (e.run env test))
    if (← get).status = 0 then e.run env yes
    else
      match no with
      | .nothing => Act.setStatus 0
      | no => e.run env no
  | .loop whileTrue test body =>
    deeper (rounds (e.run env test) whileTrue (e.run env body) patience 0)
  | .each line name ws body => do
    onLine line
    let values ← match ws with
      | none => pure (← get).arguments
      | some ws => wordFields env e ws
    if values = [] then Act.setStatus 0
    else deeper (eachRound env name (e.run env body) values)
  | .select line subject arms => do
    onLine line
    let t ← wordText env e subject
    match ← armOf env e t arms with
    | none | some .nothing => Act.setStatus 0
    | some body => e.run env body
  | .subshell line body rs => do
    onLine line
    let os ← openings env e rs
    Act.checked do
      inSubshell env e do
        os.forM (Opening.perform false (wordText env e))
        e.run env body
  | .define name body =>
    modify fun s =>
      { s with functions := (name, body) :: s.functions.filter (fun f => f.1 ≠ name), status := 0 }

/-- Runs a command by an engine for its parts, and deals with the signals that have come in front of
it and behind it. -/
def runCommand (env : Environment) (e : Engine) (c : Command) : Act Unit := do
  if (← get).has .noexec then return
  runPending env e maxSignal
  runPlain env e c
  runPending env e maxSignal

/-- Runs the commands of a script, a line at a time. -/
def runLines (env : Environment) (e : Engine) : Nat → Nat → Text → Act Unit
  | 0, _, _ => return
  | fuel + 1, line, script =>
    if script = [] then return
    else do
      let s ← get
      match readLine s.aliases line script with
      | .error r => Act.refuseScript r
      | .ok (c, after) => do
        modify fun s => { s with position := after.line }
        if s.has .verbose then Act.write 2 (script.take (script.length - after.rest.length))
        let isLast : Bool := after.rest = [] && script.getLast? ≠ some '\n'
        if isLast then e.run env c else Act.continuing (e.run env c)
        runLines env e fuel after.line after.rest

mutual

/-- Runs a command; the first argument bounds how deep commands may be nested. -/
def runWithin : Nat → Environment → Command → Act Unit
  | 0, _, _ => throw (.killed deadlySignal)
  | fuel + 1, env, c =>
    runCommand env ⟨fun env c => runWithin fuel env c, fun env n t => scriptWithin fuel env n t⟩ c

/-- Runs a script; the first argument bounds how deep commands may be nested. -/
def scriptWithin : Nat → Environment → Nat → Text → Act Unit
  | 0, _, _, _ => throw (.killed deadlySignal)
  | fuel + 1, env, line, script =>
    Act.during id (fun s t => { t with position := s.position })
      (runLines env ⟨fun env c => runWithin fuel env c, fun env n t => scriptWithin fuel env n t⟩
        (script.length + 1) line script)

end

/-- The greatest depth of nested commands. -/
def maxDepth : Nat := 10000

/-- The engine for whole programs. -/
def engine : Engine := ⟨runWithin maxDepth, scriptWithin maxDepth⟩

end Shell
end IconAssets
