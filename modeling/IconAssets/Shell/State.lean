import IconAssets.Platform.Resolve
import IconAssets.Shell.Command
import IconAssets.Shell.Expression
import IconAssets.Shell.Octet
import IconAssets.Shell.System

/-!
# Shells

## The options of a shell

Each option has a name, and most have a letter.
-/

namespace IconAssets
namespace Shell

/-- An option of a shell. -/
inductive Switch where
  | errexit | noglob | ignoreeof | interactive | monitor | noexec | stdin | xtrace | verbose | vi
  | emacs | noclobber | allexport | notify | nounset | privileged | nolog | debug
  deriving DecidableEq, Repr

namespace Switch

/-- All options, in the order in which they are listed. -/
def all : List Switch :=
  [errexit, noglob, ignoreeof, interactive, monitor, noexec, stdin, xtrace, verbose, vi, emacs,
    noclobber, allexport, notify, nounset, privileged, nolog, debug]

theorem mem_all (x : Switch) : x ∈ all := by cases x <;> decide

/-- The name of an option. -/
def name : Switch → String
  | errexit => "errexit"
  | noglob => "noglob"
  | ignoreeof => "ignoreeof"
  | interactive => "interactive"
  | monitor => "monitor"
  | noexec => "noexec"
  | stdin => "stdin"
  | xtrace => "xtrace"
  | verbose => "verbose"
  | vi => "vi"
  | emacs => "emacs"
  | noclobber => "noclobber"
  | allexport => "allexport"
  | notify => "notify"
  | nounset => "nounset"
  | privileged => "privileged"
  | nolog => "nolog"
  | debug => "debug"

/-- The letter of an option. -/
def letter? : Switch → Option Char
  | errexit => some 'e'
  | noglob => some 'f'
  | ignoreeof => some 'I'
  | interactive => some 'i'
  | monitor => some 'm'
  | noexec => some 'n'
  | stdin => some 's'
  | xtrace => some 'x'
  | verbose => some 'v'
  | vi => some 'V'
  | emacs => some 'E'
  | noclobber => some 'C'
  | allexport => some 'a'
  | notify => some 'b'
  | nounset => some 'u'
  | privileged => some 'p'
  | nolog | debug => none

/-- The option of a letter. -/
def ofLetter? (c : Char) : Option Switch := all.find? fun x => x.letter? = some c

theorem ofLetter?_letter? (x : Switch) (c : Char) (h : x.letter? = some c) :
    ofLetter? c = some x := by
  cases x <;> simp only [letter?, Option.some.injEq, reduceCtorEq] at h <;> subst h <;> decide

/-- The option of a name. -/
def ofName? (t : List Char) : Option Switch := all.find? fun x => x.name.toList = t

/-- The letters of the options that are on; the last of all options comes first. -/
def letters (on : List Switch) : List Char :=
  all.reverse.filterMap fun x => if x ∈ on then x.letter? else none

/-- The options that are on when one of them is turned on or off. -/
def turn (x : Switch) (on : Bool) (xs : List Switch) : List Switch :=
  if on then x :: xs.filter (· ≠ x) else xs.filter (· ≠ x)

theorem mem_turn (x y : Switch) (on : Bool) (xs : List Switch) :
    y ∈ turn x on xs ↔ if y = x then on = true else y ∈ xs := by
  by_cases h : y = x <;> cases on <;> simp [turn, h]

/-- The options that are on when one of them is turned on or off by its letter; there is one way to
edit a line. -/
def turnByLetter (x : Switch) (on : Bool) (xs : List Switch) : List Switch :=
  let ys := turn x on xs
  match on, x with
  | true, vi => turn emacs false ys
  | true, emacs => turn vi false ys
  | _, _ => ys

/-- The options that are on and those that are off, as a table. -/
def table (on : List Switch) : List Char :=
  "Current option settings\n".toList ++ all.flatMap fun x =>
    let name := x.name.toList
    name ++ List.replicate (16 - name.length) ' ' ++
      (if x ∈ on then "on\n" else "off\n").toList

/-- The commands that turn the options on or off. -/
def commands (on : List Switch) : List Char :=
  all.flatMap fun x =>
    (if x ∈ on then "set -o " else "set +o ").toList ++ x.name.toList ++ ['\n']

end Switch

/-!
## The state of a shell

A shell is a process.  It has variables, functions, arguments and streams of its own, and it shares
a system with the other processes.  A stream is a number; what it leads to is a handle, and two
streams may lead to the same one.
-/

/-- A variable. -/
structure Variable where
  /-- The value; none for a variable that is not set. -/
  value : Option Text
  /-- Whether programs see the variable. -/
  exported : Bool
  /-- Whether it may no longer be changed. -/
  readOnly : Bool
  deriving DecidableEq

/-- What a function brings back when it ends. -/
structure Saved where
  /-- The variables that it has made its own, as they were, the last one first. -/
  locals : List (Text × Option Variable)
  /-- The options as they were, if it has made them its own. -/
  options : Option (List Switch)
  deriving DecidableEq

/-- Where a shell has found a program: the number of the folder in the search path, and whether the
place is to be looked for again. -/
structure Tracked where
  index : Nat
  stale : Bool

/-- How far a script has read its options: the number of the next argument, and the number of
characters of the one before that have been read; none if it is done with. -/
structure OptionPlace where
  next : Nat
  offset : Option Nat

/-- Processes that a shell has started together. -/
structure Job where
  /-- The number of the job. -/
  number : Nat
  /-- The processes, and how those have ended that the shell knows of. -/
  processes : List (Nat × Option Ending)
  /-- Whether somebody has waited for the job. -/
  awaited : Bool
  /-- The command as it is shown. -/
  command : Text
  deriving DecidableEq

/-- Why something could not be written. -/
inductive Unsent where
  | badStream
  | broken
  | noRoom
  deriving DecidableEq, Repr

/-- The words for what could not be written. -/
def Unsent.words : Unsent → String
  | .badStream => "Bad file descriptor"
  | .broken => "Broken pipe"
  | .noRoom => "No space left on device"

/-- The state of a shell. -/
structure State where
  system : System
  /-- The folder that relative paths start from. -/
  working : Place
  /-- The handles of the open streams. -/
  streams : List (Nat × Nat)
  /-- The handles that are kept open for later. -/
  held : List Nat
  /-- The variables that have been touched; the others are those of the environment. -/
  bindings : List (Text × Variable)
  functions : List (Text × Command)
  /-- The texts that names stand for. -/
  aliases : List (Text × Text)
  /-- The programs whose places are remembered. -/
  tracked : List (Text × Tracked)
  optionPlace : OptionPlace
  /-- The rights that new files lack. -/
  lacking : Nat
  /-- The limits that have been set: the one that holds, and the one up to which it may be raised. -/
  limits : List (Char × Option Nat × Option Nat)
  /-- The name of the script. -/
  name : Text
  arguments : List Text
  /-- The status of the last command. -/
  status : Nat
  /-- The line of the command that is run. -/
  line : Nat
  /-- The line up to which the script has been read. -/
  position : Nat
  /-- The options that are on. -/
  options : List Switch
  /-- What is done at signals; zero is the end of the script. -/
  traps : List (Nat × Text)
  /-- The signals that have come and for which something is to be done. -/
  pending : List Nat
  /-- The number of the process. -/
  process : Nat
  /-- The number of the process that has started it. -/
  parent : Nat
  /-- The number of the process that the script was started in. -/
  root : Nat
  /-- The number of the group of processes. -/
  group : Nat
  jobs : List Job
  /-- The newest process in the background. -/
  background : Option Nat
  /-- Whether the process ends behind the command that is run. -/
  final : Bool
  /-- The number of loops around the command that is run. -/
  loops : Nat
  /-- What functions will bring back, that of the innermost function first. -/
  saved : List Saved
  /-- Whether the status of a command is looked at by the command around it. -/
  watched : Bool
  /-- The command of the shell that is run; it stands in front of complaints. -/
  label : Text
  /-- The status of the last script whose output the command has taken. -/
  taken : Nat
  /-- The names of the variables that come from outside. -/
  inherited : List Text
  /-- Why something could not be written. -/
  unsent : Option Unsent

/-- How an action leaves its place. -/
inductive Flow where
  /-- The shell ends. -/
  | exit
  /-- The shell ends because of a fault, unless the fault is one of a lesser command. -/
  | fault
  /-- A signal ends the process. -/
  | killed (signal : Nat)
  /-- So many loops end. -/
  | leave (loops : Nat)
  /-- So many loops but one end, and that one goes into its next round. -/
  | again (loops : Nat)
  /-- The function, or the script that is read, ends. -/
  | back
  deriving DecidableEq, Repr

/-- The variable with the number of the argument that is the next option. -/
def optionVariable : Text := "OPTIND".toList

/-- The variable with the search path. -/
def searchVariable : Text := "PATH".toList

/-- The rank of a name in a table of a given size. -/
def rankIn (size : Nat) (name : Text) : Nat :=
  (name.foldl (fun n c => n + c.toNat) ((name.head?.map Char.toNat).getD 0 * 16) % Nat.pow 2 15) %
    size

namespace State

/-- The volume as the shell sees it. -/
def disk (s : State) : Volume := { s.system.volume with working := s.working, lacking := s.lacking }

/-- The state with another volume. -/
def withDisk (s : State) (v : Volume) : State := { s with system := { s.system with volume := v } }

/-- The handle of a stream, with its number. -/
def handle? (s : State) (stream : Nat) : Option (Nat × Handle) :=
  (s.streams.lookup stream).bind fun k => (s.system.handles[k]?).map fun h => (k, h)

/-- What a stream leads to. -/
def target? (s : State) (stream : Nat) : Option Target := (s.handle? stream).map (·.2.target)

/-- Whether what is read on a stream comes from a file. -/
def readsFile (s : State) (stream : Nat) : Bool :=
  match s.target? stream with
  | some (.node k) => (s.system.volume.node? k).any Node.isFile
  | _ => false

/-- The state with a stream that leads to a handle. -/
def setStream (s : State) (stream handle : Nat) : State :=
  { s with streams := (stream, handle) :: s.streams.filter fun e => e.1 ≠ stream }

/-- The state with a stream closed. -/
def closeStream (s : State) (stream : Nat) : State :=
  { s with streams := s.streams.filter fun e => e.1 ≠ stream }

/-- The state with a stream that leads to a new handle. -/
def openStream (s : State) (stream : Nat) (h : Handle) : State :=
  let (system, k) := s.system.addHandle h
  { s with system }.setStream stream k

/-- The state with a stream that reads a text. -/
def openText (s : State) (stream : Nat) (data : Bytes) : State :=
  let (system, reading, _) := s.system.addPipe (.holding data)
  { s with system }.setStream stream reading

/-- Whether an option is on. -/
def has (s : State) (option : Switch) : Bool := option ∈ s.options

/-- Saves more for the function that is run. -/
def save (s : State) (more : Saved → Saved) : State :=
  match s.saved with
  | [] => s
  | kept :: others => { s with saved := more kept :: others }

/-- Remembers the place of a program. -/
def remember (s : State) (name : Text) (t : Tracked) : State :=
  if (s.tracked.lookup name).isSome then
    { s with tracked := s.tracked.map fun e => if e.1 = name then (name, t) else e }
  else { s with tracked := s.tracked ++ [(name, t)] }

/-- Makes a folder the one that relative paths start from. -/
def enter (s : State) (p : Place) : State :=
  { s with
    working := p
    tracked := s.tracked.map fun e => (e.1, { e.2 with stale := true }) }

/-- The variable of a name that has been touched. -/
def variableOf? (s : State) (name : Text) : Option Variable := s.bindings.lookup name

/-- Sets the variable of a name, or forgets it. -/
def setVariable (s : State) (name : Text) (v : Option Variable) : State :=
  let others := s.bindings.filter fun e => e.1 ≠ name
  { s with
    bindings := match v with
      | none => others
      | some v => (name, v) :: others }

/-- Lets programs see the variable of a name. -/
def shareVariable (s : State) (name : Text) : State :=
  match s.variableOf? name with
  | some v => s.setVariable name (some { v with exported := true })
  | none => s

/-- The value of a variable. -/
def valueOf? (env : Environment) (s : State) (name : Text) : Option Text :=
  match s.variableOf? name with
  | some v => v.value
  | none => (env (toText name)).map ofText

/-- Gives a variable a value. -/
def assign (env : Environment) (s : State) (name value : Text) : State :=
  let v := match s.variableOf? name with
    | some v => { v with value := some value }
    | none => ⟨some value, (env (toText name)).isSome || s.has .allexport, false⟩
  s.setVariable name (some v)

/-- The value of a parameter. -/
def parameter? (env : Environment) (s : State) (name : Text) : Option Text :=
  match String.ofList name with
  | "#" => some (Text.ofNat s.arguments.length)
  | "?" => some (Text.ofNat s.status)
  | "$" => some (Text.ofNat s.root)
  | "!" => s.background.map Text.ofNat
  | "-" => some (Switch.letters s.options)
  | "0" => some s.name
  | "@" | "*" => some (Text.glue ' ' s.arguments)
  | _ =>
    match digits? name with
    | some n => s.arguments[n - 1]?
    | none => s.valueOf? env name

/-- The environment of the programs that a shell runs. -/
def environment (env : Environment) (s : State) : Environment := fun name =>
  match s.variableOf? (ofText name) with
  | some v => if v.exported then v.value.map toText else none
  | none => env name

/-- The values of all variables. -/
def values (env : Environment) (s : State) : Environment := fun name =>
  (s.valueOf? env (ofText name)).map toText

/-- The names of all variables. -/
def variableNames (s : State) : List Text :=
  firstOccurrences (s.inherited ++ (s.bindings.map (·.1)).reverse)

/-- The size of the table of variables. -/
def variableTableSize : Nat := 39

/-- The names of the variables that programs may see, in the order of the table of variables. -/
def exportedNames (s : State) : List Text :=
  let seen := s.variableNames.filter fun n => (s.variableOf? n).all (·.exported)
  seen.mergeSort fun a b => rankIn variableTableSize a ≤ rankIn variableTableSize b

end State

end Shell
end IconAssets
