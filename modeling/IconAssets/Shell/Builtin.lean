import IconAssets.Shell.Condition
import IconAssets.Shell.Expansion
import IconAssets.Shell.Format
import IconAssets.Shell.Program
import IconAssets.Shell.Reader

/-!
# Commands of the shell

The commands that a shell does itself, as far as they run no other commands.  A fault in a special
one ends the shell.
-/

namespace IconAssets
namespace Shell

/-- A command of the shell, given its arguments. -/
abbrev Builtin := Environment → List Text → Act Unit

namespace Builtin

/-- The options and the other arguments of a command that knows the given letters. -/
def optionsOf (letters : List Char) : List Text → Act (List Char × List Text)
  | [] => return ([], [])
  | a :: rest =>
    match a with
    | ['-', '-'] => return ([], rest)
    | '-' :: c :: cs =>
      match (c :: cs).find? fun x => x ∉ letters with
      | some x => Act.refuse (say "Illegal option -" ++ [x])
      | none => do
        let (more, rest) ← optionsOf letters rest
        return (c :: cs ++ more, rest)
    | _ => return ([], a :: rest)

/-- The options in the letters of an argument, each with its value, and the arguments behind it.  The
value of an option is what stands behind its letter, or else the next argument. -/
def settingsIn (letters valued : List Char) :
    Text → List Text → Act (List (Char × Text) × List Text)
  | [], rest => return ([], rest)
  | c :: cs, rest => do
    if c ∈ valued then
      match cs, rest with
      | [], [] => Act.refuse (say "No arg for -" ++ c :: say " option")
      | [], value :: rest => return ([(c, value)], rest)
      | value, rest => return ([(c, value)], rest)
    else if c ∈ letters then do
      let (more, rest) ← settingsIn letters valued cs rest
      return ((c, []) :: more, rest)
    else Act.refuse (say "Illegal option -" ++ [c])

/-- The options of a command that knows the given letters, some of which have values, and the other
arguments; each call reads one argument. -/
def settingsOf (letters valued : List Char) :
    Nat → List Text → Act (List (Char × Text) × List Text)
  | 0, args => return ([], args)
  | _ + 1, [] => return ([], [])
  | fuel + 1, a :: rest =>
    match a with
    | ['-', '-'] => return ([], rest)
    | '-' :: c :: cs => do
      let (first, rest) ← settingsIn letters valued (c :: cs) rest
      let (more, rest) ← settingsOf letters valued fuel rest
      return (first ++ more, rest)
    | _ => return ([], a :: rest)

/-- The greatest number that an argument may be. -/
def maxNumber : Nat := 2147483647

/-- The number that an argument is. -/
def numberOf (t : Text) : Act Nat :=
  match decimal? t with
  | some i =>
    if 0 ≤ i && i ≤ maxNumber then return i.toNat else Act.refuse (say "Illegal number: " ++ t)
  | none => Act.refuse (say "Illegal number: " ++ t)

/-- Writes a line. -/
def writeLine (t : Text) : Act Unit := Act.write 1 (t ++ ['\n'])

/-- Ends with a status. -/
def status (n : Nat) : Builtin := fun _ _ => Act.setStatus n

/-- Writes its arguments. -/
def echo : Builtin := fun _ args => do
  Act.setStatus 0
  Act.write 1 (Shell.echo true args)

/-- Writes its arguments in the places of a format. -/
def printf : Builtin := fun _ args => do
  match (← optionsOf [] args).2 with
  | [] => Act.refuse (say "usage: printf format [arg ...]")
  | format :: rest =>
    let p := Shell.printf format rest
    Act.setStatus (if p.complaints = [] then 0 else 1)
    for c in p.complaints ++ p.refusal.toList do
      Act.complain c
    Act.write 1 p.out
    if p.refusal.isSome then Act.fail

/-- Tests a condition. -/
def test : Builtin := fun _ args => do
  match Condition.evaluate (← get).sight args with
  | .ok b => Act.setStatus (if b then 0 else 1)
  | .error message => Act.refuse message

/-- Tests a condition in brackets. -/
def bracket : Builtin := fun env args =>
  if args.getLast? = some [']'] then test env args.dropLast else Act.refuse (say "missing ]")

/-- The path of the folder that relative paths start from. -/
def workingPath (d : Volume) : Text := '/' :: Shell.ofText (Text.glue '/' d.working)

/-- Writes the path of the working folder. -/
def pwd : Builtin := fun _ args => do
  discard (optionsOf ['L', 'P'] args)
  Act.setStatus 0
  writeLine (workingPath (← get).disk)

/-- The variables with the working folder, the one before and the home. -/
def folderVariables : Text × Text × Text := ("PWD".toList, "OLDPWD".toList, "HOME".toList)

/-- The variable with the folders in which folders are looked for. -/
def folderSearchVariable : Text := "CDPATH".toList

/-- The place that a path means if a step up takes back the piece in front of it, whatever that is. -/
def placeMeant (working : Place) (p : Path) : Place :=
  Disk.travel (if p.isAbsolute then [] else working) (Text.pieces '/' p.text)

/-- Whether a path starts at a given folder, so that it is not looked for. -/
def isAnchored (t : Text) : Bool :=
  t.head? = some '/' || (Text.pieces '/' t).head?.any fun piece =>
    piece = ['.'] || piece = ['.', '.']

/-- Changes the working folder. -/
def cd : Builtin := fun env args => do
  let (options, args) ← optionsOf ['L', 'P'] args
  let s ← get
  let (current, previous, home) := folderVariables
  let given := match args with
    | [] => (s.valueOf? env home).getD []
    | t :: _ => if t = ['-'] then (s.valueOf? env previous).getD [] else t
  let target := if given = [] then ['.'] else given
  let folders := match s.valueOf? env folderSearchVariable with
    | some t => if isAnchored given then [] else Text.pieces ':' t
    | none => []
  let found := folders.filterMap fun folder =>
    let path := if folder = [] then target else folder ++ '/' :: target
    if s.disk.isFolder (Pattern.pathOf path) then some (path, !folder.isEmpty) else none
  let (path, isFar) := found.headD (target, false)
  let path := Pattern.pathOf path
  let path := if options.getLast? = some 'P' then path
    else Path.mk ('/' :: Text.glue '/' (placeMeant s.disk.working path))
  match s.disk.resolve path with
  | .error _ => Act.refuse (say "can't cd to " ++ target)
  | .ok p =>
    if !s.disk.isFolderAt p then Act.refuse (say "can't cd to " ++ target)
    else do
      let before := workingPath s.disk
      set { s.enter p with status := 0 }
      Act.assign env previous before
      Act.assign env current (workingPath (← get).disk)
      modify fun s => (s.shareVariable previous).shareVariable current
      if args.head? = some ['-'] || isFar then writeLine (workingPath (← get).disk)

/-- A text in quotation marks, as a shell reads it back. -/
def quoted (t : Text) : Text :=
  '\'' :: (t.flatMap fun c => if c = '\'' then "'\"'\"'".toList else [c]) ++ ['\'']

/-- The name and the value of an argument that assigns a variable. -/
def splitAssignment (a : Text) : Text × Option Text :=
  let name := a.takeWhile (· ≠ '=')
  (name, if name.length < a.length then some (a.drop (name.length + 1)) else none)

/-- Writes the variables that meet a condition, in order, as a shell reads them back. -/
def showVariables (env : Environment) (word : Text) (meets : Variable → Bool) : Act Unit := do
  let s ← get
  for name in Text.sortOnce s.variableNames do
    let v := (s.variableOf? name).getD ⟨(env (toText name)).map ofText, true, false⟩
    if meets v then
      writeLine (word ++ name ++
        match v.value with
        | none => []
        | some t => '=' :: quoted t)

/-- Marks variables, and assigns those that have values. -/
def mark (word : String) (change : Variable → Variable) : Builtin := fun env args => do
  let (options, args) ← optionsOf ['p'] args
  Act.setStatus 0
  if 'p' ∈ options || args = [] then
    showVariables env (say (word ++ " ")) fun v =>
      (change v).exported = v.exported && (change v).readOnly = v.readOnly
  else for a in args do
    let (name, value) := splitAssignment a
    if !isName name then Act.refuse (name ++ say ": bad variable name")
    match value with
    | none => pure ()
    | some t => Act.assign env name t
    modify fun s =>
      let v := (s.variableOf? name).getD ⟨(env (toText name)).map ofText, false, false⟩
      s.setVariable name (some (change v))

/-- Makes variables local to the function that is run. -/
def localVariables : Builtin := fun env args => do
  Act.setStatus 0
  if (← get).saved = [] then Act.refuse (say "not in a function")
  for a in args do
    if a = ['-'] then
      modify fun s => s.save fun kept => { kept with options := some (kept.options.getD s.options) }
    else do
      let (name, value) := splitAssignment a
      if !isName name then Act.refuse (name ++ say ": bad variable name")
      modify fun s =>
        s.save fun kept => { kept with locals := (name, s.variableOf? name) :: kept.locals }
      match value with
      | none => pure ()
      | some t => Act.assign env name t

/-- Forgets variables or functions. -/
def unset : Builtin := fun _ args => do
  let (options, args) ← optionsOf ['v', 'f'] args
  Act.setStatus 0
  for name in args do
    if 'f' ∈ options then
      modify fun s => { s with functions := s.functions.filter fun e => e.1 ≠ name }
    else if !isName name then Act.refuse (name ++ say ": bad variable name")
    else if ((← get).variableOf? name).any (·.readOnly) then
      Act.refuse (name ++ say ": is read only")
    else if name = optionVariable then Act.refuse (say "Illegal number: ")
    else do
      modify fun s => s.setVariable name (some ⟨none, false, false⟩)
      if name = searchVariable then modify fun s => { s with tracked := [] }

/-- Turns an option on or off by its letter. -/
def setOption (on : Bool) (c : Char) : Act Unit := do
  match Switch.ofLetter? c with
  | some x => modify fun s => { s with options := x.turnByLetter on s.options }
  | none => Act.refuse (say "Illegal option -" ++ [c])

/-- Turns the option on or off whose name comes next, or shows all; gives the other arguments. -/
def setNamed (on : Bool) : List Text → Act (List Text)
  | [] => do
    let options := (← get).options
    Act.write 1 (if on then Switch.table options else Switch.commands options)
    return []
  | name :: rest => do
    match Switch.ofName? name with
    | some x => modify fun s => { s with options := x.turn on s.options }
    | none => Act.refuse (say "Illegal option -o " ++ name)
    return rest

/-- Turns options on or off by their letters; gives the arguments that hold no names of options. -/
def setLetters (on : Bool) : Text → List Text → Act (List Text)
  | [], rest => return rest
  | 'o' :: cs, rest => do setLetters on cs (← setNamed on rest)
  | c :: cs, rest => do
    setOption on c
    setLetters on cs rest

/-- Sets options and arguments.  No more options are looked for than there are arguments. -/
def setFrom : Nat → List Text → Act Unit
  | 0, _ | _, [] => return
  | _, ['-', '-'] :: rest => modify fun s => { s with arguments := rest }
  | _, ['-'] :: rest => do
    modify fun s =>
      { s with options := Switch.turn .xtrace false (Switch.turn .verbose false s.options) }
    if rest ≠ [] then modify fun s => { s with arguments := rest }
  | n + 1, a :: rest => do
    match a with
    | '-' :: cs => setFrom n (← setLetters true cs rest)
    | '+' :: cs => setFrom n (← setLetters false cs rest)
    | _ => modify fun s => { s with arguments := a :: rest }

/-- Gives up control of jobs: no terminal is there.  A process that another has split off from itself
does not try. -/
def checkMonitor : Act Unit := do
  let s ← get
  if s.has .monitor && s.process = s.root then
    Act.complain (say "can't access tty; job control turned off")
    modify fun s => { s with options := Switch.turn .monitor false s.options }

/-- Sets options and arguments. -/
def adjust : Builtin := fun env args => do
  Act.setStatus 0
  if args = [] then showVariables env [] fun v => v.value.isSome
  else do
    setFrom args.length args
    checkMonitor

/-- Drops the first arguments. -/
def shift : Builtin := fun _ args => do
  let n ← match args with
    | [] => pure 1
    | t :: _ => numberOf t
  if (← get).arguments.length < n then Act.refuse (say "can't shift that many")
  modify fun s => { s with arguments := s.arguments.drop n, status := 0 }

/-- Ends the shell. -/
def exit : Builtin := fun _ args => do
  match args with
  | [] => throw .exit
  | t :: _ => do
    Act.setStatus ((← numberOf t) % 256)
    throw .exit

/-- Ends the function or the script that is read. -/
def back : Builtin := fun _ args => do
  match args with
  | [] => throw .back
  | t :: _ => do
    Act.setStatus ((← numberOf t) % 256)
    throw .back

/-- Ends some of the loops around the command. -/
def leave (flow : Nat → Flow) : Builtin := fun _ args => do
  let n ← match args with
    | [] => pure 1
    | t :: _ => do
      let n ← numberOf t
      if n = 0 then Act.refuse (say "Illegal number: " ++ t) else pure n
  Act.setStatus 0
  let loops := (← get).loops
  if loops ≠ 0 then throw (flow (min n loops))

/-- The signals by their names. -/
def signals : List (String × Nat) :=
  [("EXIT", 0), ("HUP", 1), ("INT", 2), ("QUIT", 3), ("ILL", 4), ("TRAP", 5), ("ABRT", 6),
    ("BUS", 7), ("FPE", 8), ("KILL", 9), ("USR1", 10), ("SEGV", 11), ("USR2", 12), ("PIPE", 13),
    ("ALRM", 14), ("TERM", 15), ("CHLD", 17), ("CONT", 18), ("STOP", 19),
    ("TSTP", 20), ("TTIN", 21), ("TTOU", 22), ("URG", 23), ("XCPU", 24), ("XFSZ", 25),
    ("VTALRM", 26), ("PROF", 27), ("WINCH", 28), ("IO", 29), ("PWR", 30), ("SYS", 31)]

/-- The name of a signal, or its number if it has none.  The last ones are counted from their ends. -/
def signalName (n : Nat) : Text :=
  match signals.find? fun e => e.2 = n with
  | some (name, _) => say name
  | none =>
    if n = 34 then say "RTMIN"
    else if n = 64 then say "RTMAX"
    else if 34 < n && n < 50 then say "RTMIN+" ++ Text.ofNat (n - 34)
    else if 50 ≤ n && n < 64 then say "RTMAX-" ++ Text.ofNat (64 - n)
    else Text.ofNat n

/-- The number of a signal by its name, in letters of either case, or its number. -/
def signal? (t : Text) : Option Nat :=
  match digits? t with
  | some n => if n ≤ 64 then some n else none
  | none => (List.range 65).find? fun n => (signalName n).map Char.toUpper = t.map Char.toUpper

/-- Sets what is done at signals. -/
def trap : Builtin := fun _ args => do
  let (_, args) ← optionsOf [] args
  Act.setStatus 0
  match args with
  | [] =>
    for (n, action) in (← get).traps.mergeSort fun a b => a.1 ≤ b.1 do
      writeLine (say "trap -- " ++ quoted action ++ ' ' :: signalName n)
  | [t] => setAll none [t]
  | action :: names =>
    if ((digits? action).bind fun _ => signal? action).isSome then setAll none args
    else setAll (if action = ['-'] then none else some action) names
where
  /-- Sets what is done at each of several signals. -/
  setAll (action : Option Text) (names : List Text) : Act Unit := do
    for name in names do
      match signal? name with
      | none => do
        Act.setStatus 1
        Act.write 2 (say "trap: " ++ name ++ say ": bad trap\n")
        return
      | some n =>
        modify fun s =>
          let others := s.traps.filter fun e => e.1 ≠ n
          { s with traps := match action with
              | none => others
              | some t => (n, t) :: others }

/-- The fields of a line for several names; the last name gets what is left. -/
def fieldsFor (separators : Text) : List Text → Pattern → List (Text × Text)
  | [], _ => []
  | [name], p => [(name, Pattern.text (trimEnd p))]
  | name :: names, p =>
    let field := p.takeWhile fun g => !isSeparator g
    let rest := (p.drop field.length).dropWhile isBlank
    let rest := if !field.isEmpty && (p.drop field.length).head?.any isBlank &&
        !(rest.head?.any isSeparator) then rest
      else (rest.drop 1).dropWhile isBlank
    (name, Pattern.text field) :: fieldsFor separators names rest
where
  /-- Whether a glyph separates fields. -/
  isSeparator (g : Glyph) : Bool := !g.quoted && g.char ∈ separators
  /-- Whether a glyph is a blank separator. -/
  isBlank (g : Glyph) : Bool := isSeparator g && skipGaps [g.char] = []
  /-- What is left, without the separators that only end it. -/
  trimEnd (p : Pattern) : Pattern :=
    let p := (p.reverse.dropWhile isBlank).reverse
    match p.reverse with
    | g :: q =>
      if isSeparator g && !((q.dropWhile isBlank).any isSeparator) then
        (q.dropWhile isBlank).reverse
      else p
    | [] => []

/-- The first line of a text and what follows; a backslash quotes a character or joins two lines.
The last part tells whether the line has an end. -/
def lineAt (raw : Bool) : Text → Pattern × Text × Bool
  | [] => ([], [], false)
  | '\\' :: c :: t =>
    let r := lineAt raw t
    if raw then
      if c = '\n' then ([⟨'\\', false⟩], t, true) else (⟨'\\', false⟩ :: ⟨c, false⟩ :: r.1, r.2)
    else if c = '\n' then r
    else (⟨c, true⟩ :: r.1, r.2)
  | c :: t =>
    if c = '\n' then ([], t, true)
    else
      let r := lineAt raw t
      (⟨c, false⟩ :: r.1, r.2)

/-- Reads a line from the input, and gives back what follows; each call reads a piece.  The answer
tells whether the line has an end. -/
def readLine (raw : Bool) : Nat → Text → Act (Pattern × Bool)
  | 0, _ => return ([], false)
  | fuel + 1, before => do
    match ← Act.receive 0 with
    | [] => return ((lineAt raw before).1, false)
    | data => do
      let text := before ++ ofBytes data
      let (line, rest, ended) := lineAt raw text
      if ended then do
        Act.giveBack 0 (toBytes rest)
        return (line, true)
      else readLine raw fuel text

/-- Reads a line into variables. -/
def read : Builtin := fun env args => do
  let (options, names) ← settingsOf ['r'] ['p'] args.length args
  let isRaw := options.any fun o => o.1 = 'r'
  if names = [] then Act.refuse (say "arg count")
  let (line, ended) ← readLine isRaw Act.maxPieces []
  Act.setStatus (if ended then 0 else 1)
  let separators := separatorsOf (← get)
  let line := line.filter fun g => g.char ≠ '\x00'
  let start := line.dropWhile (fieldsFor.isBlank separators)
  for (name, value) in fieldsFor separators names start do
    if !isName name then Act.refuse (name ++ say ": bad variable name")
    Act.assign env name value

/-- The job that an argument names. -/
def jobOf (t : Text) : Act Job := do
  let s ← get
  let found := match t with
    | ['%'] | ['%', '%'] | ['%', '+'] => s.jobs.head?
    | ['%', '-'] => (s.jobs.drop 1).head?
    | '%' :: n => (digits? n).bind fun n => s.jobs.find? fun j => j.number = n
    | t => (digits? t).bind fun n => s.jobs.find? fun j => j.process? = some n
  match found with
  | some j => return j
  | none =>
    Act.refuse (match t with
      | ['%'] | ['%', '%'] | ['%', '+'] => say "No current job"
      | ['%', '-'] => say "No previous job"
      | t => say "No such job: " ++ t)

/-- The status of a command that a signal has interrupted. -/
def interruptedStatus (s : State) : Nat := 128 + (s.pending.min?).getD 0

/-- Waits for a job, and tells of processes that signals have ended; each call waits for one.  The
answer tells whether a signal has come in between. -/
def waitForJob (number : Nat) : Nat → Act Bool
  | 0 => return false
  | fuel + 1 => do
    let left := ((← get).jobs.filter fun j => j.number = number).flatMap fun j =>
      (j.processes.filter fun p => p.2.isNone).map (·.1)
    if left = [] then return false
    match ← Act.pause (.child left none true) with
    | .interrupted => return true
    | _ => do
      match ← Act.reap left with
      | none => return false
      | some (n, e) => do
        Act.tellEnd e
        modify fun s => { s with jobs := s.jobs.map (Job.noting n e) }
        waitForJob number fuel

/-- Waits for all jobs; each call waits for the end of a process.  The answer tells whether a signal
has come in between. -/
def waitForAll : Nat → Act Bool
  | 0 => return false
  | fuel + 1 => do
    modify State.sweep
    let left := (← get).jobs.flatMap fun j =>
      (j.processes.filter fun p => p.2.isNone).map (·.1)
    if left = [] then return false
    match ← Act.pause (.child left none true) with
    | .interrupted => return true
    | .ready => waitForAll fuel
    | _ => return false

/-- The most processes that are waited for. -/
def maxProcesses : Nat := 1000000

/-- Waits for commands in the background. -/
def wait : Builtin := fun _ args => do
  let (_, args) ← optionsOf [] args
  Act.setStatus 0
  if args = [] then
    if ← waitForAll maxProcesses then modify fun s => { s with status := interruptedStatus s }
    else modify fun s => { s with jobs := s.jobs.map fun j => { j with awaited := true } }
  else do
    Act.setStatus 127
    for t in args do
      if t.head? ≠ some '%' then discard (numberOf t)
      let s ← get
      let known := t.head? = some '%' ||
        s.jobs.any fun j => (j.process?.map Text.ofNat) = some t
      if known then
        let j ← jobOf t
        if ← waitForJob j.number maxProcesses then do
          modify fun s => { s with status := interruptedStatus s }
          return
        modify fun s =>
          let s := s.sweep
          let status := ((s.jobs.find? fun i => i.number = j.number).map fun i =>
            i.ending.status).getD 0
          { s with
            status
            jobs := s.jobs.map fun i => if i.number = j.number then { i with awaited := true } else i }

/-- The width of what stands in front of a command where jobs are shown. -/
def jobWidth : Nat := 33

/-- Shows the jobs, and forgets those that have ended. -/
def jobs : Builtin := fun _ args => do
  let (options, args) ← optionsOf ['l', 'p'] args
  Act.setStatus 0
  modify State.sweep
  let shown ← if args = [] then pure (← get).jobs else args.mapM jobOf
  for j in shown do
    let all := (← get).jobs
    let leader := Text.ofNat (((j.processes.head?).map (·.1)).getD 0)
    if 'p' ∈ options then writeLine leader
    else
      let mark := if (all.head?).map (·.number) = some j.number then '+'
        else if ((all.drop 1).head?).map (·.number) = some j.number then '-' else ' '
      let state := if !j.isDone then say "Running"
        else
          match j.ending with
          | .exited 0 => say "Done"
          | .exited n => say "Done(" ++ Text.ofNat n ++ [')']
          | .killed n => say ((Act.signalWords n).getD "")
      let start := '[' :: Text.ofNat j.number ++ say "] " ++ [mark, ' '] ++
        (if 'l' ∈ options then leader ++ [' '] else []) ++ state
      writeLine (start ++ List.replicate (jobWidth - start.length) ' ' ++ j.command)
      modify fun s => { s with jobs := s.jobs.filter fun i => i.number ≠ j.number || !j.isDone }

/-- Complains that a job cannot be brought to the foreground or sent on in the background. -/
def control : Builtin := fun _ args => do
  let (_, args) ← optionsOf [] args
  match args with
  | [] =>
    if (← get).jobs = [] then Act.refuse (say "No current job")
    else Act.refuse (say "job (null) not created under job control")
  | t :: _ => do
    discard (jobOf t)
    Act.refuse (say "job " ++ t ++ say " not created under job control")

/-- Writes how much time has been spent, which is none. -/
def times : Builtin := fun _ _ => do
  Act.setStatus 0
  writeLine (say "0m0.000000s 0m0.000000s\n0m0.000000s 0m0.000000s")

end Builtin

end Shell
end IconAssets
