import IconAssets.Shell.Builtin.Table

/-!
# Engines

A command is an action of a shell.  Commands are run by an engine, which runs the parts of a
command by an engine of less power; a command that is nested too deeply, like a loop that goes on
for too long, is killed.

This module holds what can be done with actions before it is said what the commands do: the states
of new shells, actions in loops, in functions and in copies of the shell, and words that are
expanded by an engine.
-/

namespace IconAssets
namespace Shell

/-- What runs the commands in a command, the scripts in words, and the shells in a shell. -/
structure Engine where
  /-- Runs a command. -/
  run : Environment → Command → Act Unit
  /-- Runs a script whose first line has the given number. -/
  script : Environment → Nat → Text → Act Unit

namespace State

/-- The state in which a program starts. -/
def initial (system : System) (working : Place) (streams : List (Nat × Nat)) (name : Text)
    (arguments : List Text) (process parent : Nat) : State :=
  { system, working, streams, held := [], bindings := [], functions := [], aliases := [],
    tracked := [], optionPlace := ⟨1, none⟩, lacking := 18, limits := [], name, arguments,
    status := 0, line := 1, position := 1, options := [], traps := [], pending := [], process,
    parent, root := process, group := process, jobs := [], background := none, final := true,
    loops := 0, saved := [], watched := false, label := [], taken := 0, inherited := [],
    unsent := none }

/-- The variables that a shell starts with. -/
def startBindings (s : State) : List (Text × Variable) :=
  [(String.ofList separatorVariable, [' ', '\t', '\n']), (String.ofList optionVariable, ['1']),
    ("PPID", Text.ofNat s.parent), ("PWD", Builtin.workingPath s.disk), ("PS1", ['#', ' ']),
    ("PS2", ['>', ' ']), ("PS4", ['+', ' '])].map fun e =>
      (e.1.toList, ⟨some e.2, e.1 = "PWD", false⟩)

/-- The state of a program that a process becomes. -/
def become (s : State) (name : Text) (arguments : List Text) (inherited : List Text) : State :=
  { initial s.system s.working s.streams name arguments s.process s.parent with
    traps := s.traps.filter fun e => e.2 = []
    group := s.group
    lacking := s.lacking
    limits := s.limits
    inherited }

end State

namespace Act

/-- Sends what is wrong with a script to the stream for complaints, and ends the shell. -/
def refuseScript (r : Refusal) : Act Unit := do
  modify fun s => { s with line := r.line }
  refuse (say ("Syntax error: " ++ r.message))

/-- Ends the shell after a command that fails, if the option for it is on and nobody looks. -/
def checked (body : Act Unit) : Act Unit := do
  body
  let s ← get
  if s.status ≠ 0 && s.has .errexit && !s.watched then throw .exit

/-- Does something with a label in front of complaints. -/
def labelled {α : Type} (label : Text) (body : Act α) : Act α :=
  during (fun s => { s with label }) (fun s t => { t with label := s.label }) body

/-- Does something in a loop: tells whether the loop goes on. -/
def inLoop (body : Act Unit) : Act Bool := fun s =>
  (body s).settle (fun _ t => .ok true t) fun flow t =>
    match flow with
    | .leave n => if n ≤ 1 then .ok false t else .error (.leave (n - 1)) t
    | .again n => if n ≤ 1 then .ok true t else .error (.again (n - 1)) t
    | flow => .error flow t

/-- Does something that may leave its place in a certain way, and goes on behind it. -/
def catching (flow : Flow) (body : Act Unit) : Act Unit := fun s =>
  (body s).settle .ok fun e t => if e = flow then .ok () t else .error e t

/-- Does something after which the shell goes on even if a fault would end it. -/
def forgiven (body : Act Unit) : Act Unit := catching .fault body

/-- Does something that may be left early, as a function or a script that is read. -/
def untilBack (body : Act Unit) : Act Unit := catching .back body

/-- Assigns a variable that programs see. -/
def assignShared (env : Environment) (name value : Text) : Act Unit := do
  assign env name value
  modify fun s => s.setVariable name ((s.variableOf? name).map fun v => { v with exported := true })

/-- Does something, and gives variables back what they were. -/
def restoring (olds : List (Text × Option Variable)) (body : Act Unit) : Act Unit :=
  during id (fun _ t => olds.foldl (fun t o => t.setVariable o.1 o.2) t) body

end Act

/-- Runs the script that is set for a signal. -/
def runTrap (env : Environment) (e : Engine) (signal : Nat) : Act Unit := do
  let s ← get
  match s.traps.lookup signal with
  | none | some [] => return
  | some action => do
    Act.continuing (e.script env 1 action)
    Act.setStatus s.status

/-- Runs the scripts for the signals that have come, in the order of their numbers; each call runs
one. -/
def runPending (env : Environment) (e : Engine) : Nat → Act Unit
  | 0 => return
  | fuel + 1 => do
    match (← get).pending.min? with
    | none => return
    | some n => do
      modify fun s => { s with pending := s.pending.filter (· ≠ n) }
      runTrap env e n
      runPending env e fuel

/-- The greatest number of a signal. -/
def maxSignal : Nat := 64

/-- Does something as a shell does it that ends afterwards: the script for the end is run. -/
def finishing (env : Environment) (e : Engine) (body : Act Unit) : Act Unit := fun s =>
  let last (t : State) : Task Unit :=
    match t.traps.lookup 0 with
    | none => .ok () t
    | some _ => runTrap env e 0 { t with watched := true }
  (body s).settle (fun _ t => last t) fun flow t =>
    match flow with
    | .killed n => .error (.killed n) t
    | _ => last t

/-- Does something in a copy of the shell that ends afterwards; the shell itself will do if it ends
then, too. -/
def inSubshell (env : Environment) (e : Engine) (body : Act Unit) : Act Unit := do
  let s ← get
  if s.final && !s.hasTraps then do
    set s.copied
    body
    throw .exit
  else Act.runForeground State.copied (finishing env e body)

/-- What runs the scripts in words. -/
def Engine.scriptsInWords (e : Engine) (env : Environment) : Nat → Text → Act Unit :=
  fun line t => finishing env e (e.script env line (t.reverse.dropWhile (· = '\n')).reverse)

/-- The home folders of the users of a machine. -/
def homes : List (String × String) :=
  [("root", "/root"), ("daemon", "/usr/sbin"), ("bin", "/bin"), ("sys", "/dev"), ("sync", "/bin"),
    ("games", "/usr/games"), ("man", "/var/cache/man"), ("lp", "/var/spool/lpd"), ("mail", "/var/mail"),
    ("news", "/var/spool/news"), ("uucp", "/var/spool/uucp"), ("proxy", "/bin"), ("www-data", "/var/www"),
    ("backup", "/var/backups"), ("list", "/var/list"), ("irc", "/run/ircd"), ("_apt", "/nonexistent"),
    ("nobody", "/nonexistent")]

/-- The home folder of the user that is named behind a tilde, or of the one who runs the shell. -/
def homeOf? (env : Environment) (s : State) (user : Text) : Option Text :=
  if user = [] then s.valueOf? env "HOME".toList else (homes.lookup (String.ofList user)).map say

/-- The word with the home folder for a tilde at its start. -/
def withHome (env : Environment) (s : State) (w : Word) : Word :=
  match w with
  | .text false ('~' :: t) :: rest =>
    let user := t.takeWhile (· ≠ '/')
    if rest = [] || user.length < t.length then
      match homeOf? env s user with
      | some home => .text true home :: .text false (t.drop user.length) :: rest
      | none => w
    else w
  | _ => w

/-- The parts of an assigned text with home folders for tildes behind colons, and at its start unless
something stands in front; `isLast` tells whether nothing stands behind. -/
def homesInText (env : Environment) (s : State) (isLast : Bool) : Bool → List Text → List Part
  | _, [] => []
  | isFirst, t :: ts =>
    let colon : List Part := if ts = [] then [] else [.text false [':']]
    let user := (t.drop 1).takeWhile (· ≠ '/')
    let isWhole : Bool := user.length + 1 < t.length || ts ≠ [] || isLast
    let here : List Part :=
      match if isFirst && t.head? = some '~' && isWhole then homeOf? env s user else none with
      | some home => [.text true home, .text false (t.drop (user.length + 1))]
      | none => [.text false t]
    here ++ colon ++ homesInText env s isLast true ts

/-- The value of an assignment with home folders for tildes at its start and behind colons; the first
argument tells whether this is its start. -/
def withHomes (env : Environment) (s : State) : Bool → Word → Word
  | _, [] => []
  | isFirst, .text false t :: rest =>
    homesInText env s rest.isEmpty isFirst (Text.pieces ':' t) ++
      withHomes env s (t.getLast? = some ':') rest
  | _, p :: rest => p :: withHomes env s false rest

/-- The text that the value of an assignment stands for. -/
def assignedText (env : Environment) (e : Engine) (w : Word) : Act Text := do
  expandText env (e.scriptsInWords env) (withHomes env (← get) true w)

/-- The text that a word stands for where nothing is split. -/
def wordText (env : Environment) (e : Engine) (w : Word) : Act Text := do
  expandText env (e.scriptsInWords env) (withHome env (← get) w)

/-- The fields that words stand for. -/
def wordFields (env : Environment) (e : Engine) (ws : List Word) : Act (List Text) := do
  let s ← get
  expandAll env (e.scriptsInWords env) (ws.map (withHome env s))

/-!
## Redirections

A redirection opens a stream: to a file, to another stream, or to a text of the script.  The
names of files are expanded before the first stream is opened, a text of the script only then.
-/

/-- What a redirection opens. -/
inductive Opening where
  | read (stream : Nat) (path : Text)
  | write (stream : Nat) (manner : Writing) (path : Text)
  | copy (stream : Nat) (source : Text)
  | document (stream : Nat) (word : Word)

/-- The words for a file that cannot be opened. -/
def openWords (making : Bool) (path : Text) (e : Disk.Fault) : Text :=
  say (if making then "cannot create " else "cannot open ") ++ path ++ say ": " ++
    match e with
    | .missing | .notFolder => say (if making then "Directory nonexistent" else "No such file")
    | e => faultWords e

namespace Opening

/-- Makes a stream the same as another.  Where it is `kept` for later what the stream leads to, the
stream is closed first, so there may be none to complain on. -/
def share (kept : Bool) (stream : Nat) (source : Text) : Act Unit := do
  let s ← get
  if source = ['-'] then set (s.closeStream stream)
  else
    match digits? source with
    | none => return
    | some n =>
      if n = stream then return
      if kept then set (s.closeStream stream)
      match s.streams.lookup n with
      | none => Act.refuse (Text.ofNat n ++ say ": Bad file descriptor")
      | some k => set (s.setStream stream k)

/-- Opens a stream that leads to a pipe that is a node. -/
def openPipe (stream : Nat) (reads writes appends : Bool) (node : Nat) : Act Unit := do
  let k ← Act.openPipe node reads writes appends
  modify fun s => s.setStream stream k
  Act.release k

/-- Opens a stream that reads a file. -/
def openSource (stream : Nat) (path : Text) : Act Unit := do
  let s ← get
  match s.disk.resolve (Pattern.pathOf path) with
  | .error e => Act.refuse (openWords false path e)
  | .ok place =>
    match s.disk.number? place with
    | none => Act.refuse (openWords false path .missing)
    | some k =>
      if (s.system.volume.node? k).any Node.isAbsent then Act.refuse (openWords false path .noDevice)
      else if ← Act.isPipe k then openPipe stream true false false k
      else set (s.openStream stream ⟨.node k, 0, true, false, false⟩)

/-- Whether what a file holds is lost when it is opened in some manner. -/
def clears : Writing → Bool
  | .anew _ => true
  | .behind | .within => false

/-- Opens a stream that writes to a node. -/
def openNode (stream : Nat) (manner : Writing) (k : Nat) : Act Unit := do
  if ← Act.isPipe k then openPipe stream (manner = .within) true (manner = .behind) k
  else modify fun s =>
    let s := if clears manner then s.withDisk (s.system.volume.setData k []) else s
    s.openStream stream ⟨.node k, 0, manner = .within, true, manner = .behind⟩

/-- Opens a stream that writes a file. -/
def openTarget (stream : Nat) (manner : Writing) (path : Text) : Act Unit := do
  let s ← get
  let p := Pattern.pathOf path
  if s.has .noclobber && manner = .anew false && s.disk.isFile p then
    Act.refuse (openWords true path .taken)
  else
    match s.disk.create p Volume.usualRights with
    | .error e => Act.refuse (openWords true path e)
    | .ok (v, k) => do
      set (s.withDisk v)
      openNode stream manner k

/-- Opens a stream at what another stream leads to. -/
def openStreamPath (stream n : Nat) (path : Text) (onNode : Nat → Act Unit) : Act Unit := do
  match (← get).target? n with
  | none => Act.refuse (openWords false path .missing)
  | some (.node k) => onNode k
  | some (.pipe _) => share true stream (Text.ofNat n)

/-- Opens a stream; `text` gives the text that a word stands for. -/
def perform (kept : Bool) (text : Word → Act Text) : Opening → Act Unit
  | .read stream path =>
    match streamPath? path with
    | some n => openStreamPath stream n path fun k =>
        modify fun s => s.openStream stream ⟨.node k, 0, true, false, false⟩
    | none => openSource stream path
  | .write stream manner path =>
    match streamPath? path with
    | some n => openStreamPath stream n path (openNode stream manner)
    | none => openTarget stream manner path
  | .copy stream source => share kept stream source
  | .document stream w => do
    let t ← text w
    modify fun s => s.openText stream (toBytes t)

/-- Opens several streams; the answer tells whether they could all be opened. -/
def performAll (text : Word → Act Text) (os : List Opening) : Act Bool := fun s =>
  (os.forM (perform true text) s).settle (fun _ t => .ok true t) fun e t =>
    if e = .fault then .ok false t else .error e t

end Opening

/-- What redirections open. -/
def openings (env : Environment) (e : Engine) : List Redirection → Act (List Opening)
  | [] => return []
  | r :: rs => do
    let first ← match r with
      | .read stream w => pure (Opening.read stream (← wordText env e w))
      | .write stream manner w => pure (Opening.write stream manner (← wordText env e w))
      | .copy stream w => do
        let t ← wordText env e w
        if t ≠ ['-'] && (t.length ≠ 1 || !t.all Char.isDigit) then
          modify fun s => { s with line := s.position }
          Act.refuse (say "Syntax error: Bad fd number")
        pure (Opening.copy stream t)
      | .document stream w => pure (Opening.document stream w)
    return first :: (← openings env e rs)

/-- Does something with redirections; a stream that cannot be opened is a failure. -/
def redirected (env : Environment) (e : Engine) (rs : List Redirection) (body : Act Unit) :
    Act Unit := do
  let os ← openings env e rs
  Act.withStreams do
    if ← Opening.performAll (wordText env e) os then Act.continuing body else return

end Shell
end IconAssets
