import IconAssets.Shell.Job
import IconAssets.Shell.Program
import IconAssets.Shell.Utility.Quoting

/-!
# Calls of utilities

Utilities are the small programs that every machine has.  A utility gets its arguments and its
input, may read and change the disk, and answers with what it writes and with a status.  All its
texts are texts of octets.

A utility that starts other programs is an action of the shell that runs it.
-/

namespace IconAssets
namespace Shell

/-- What a utility is given. -/
structure Call where
  disk : Volume
  input : Text
  /-- The name under which the utility is called. -/
  name : Text
  arguments : List Text
  /-- The variables of the environment, in order. -/
  vars : List (Text × Text)
  /-- Whether the input is a file, whose size is known before it is read. -/
  inputIsFile : Bool

/-- What a utility leaves behind. -/
structure Effect where
  disk : Volume
  /-- The pieces that it writes in order, each with whether it is a complaint. -/
  written : List (Bool × Text)
  status : Nat
  /-- What is left of the input; none if it has not been read. -/
  rest : Option Text
  /-- Whether the utility has stopped before the end of its input. -/
  sated : Bool

/-- What starts other programs.  Each is given its environment, in order, and its words; the answer
tells why it cannot be run. -/
structure Starter where
  /-- Runs a program in the place of the utility. -/
  become : List (Text × Text) → List Text → Act (Option Disk.Fault)
  /-- Starts a program beside the utility; the answer is the number of its process. -/
  launch : List (Text × Text) → List Text → Act (Except Disk.Fault Nat)

/-- Runs a program beside the utility. -/
def Starter.start (s : Starter) (vars : List (Text × Text)) (words : List Text) :
    Act (Except Disk.Fault Ending) := do
  match ← s.launch vars words with
  | .error fault => return .error fault
  | .ok process => return .ok (← Act.join process)

/-- A utility. -/
inductive Utility where
  | working (run : Call → Effect)
  /-- A utility that starts other programs. -/
  | starting (run : Starter → Call → Act Unit)

namespace Effect

/-- What is written without complaints. -/
def out (e : Effect) : Text := (e.written.filter fun w => !w.1).flatMap (·.2)

/-- What is complained about. -/
def complaints (e : Effect) : Text := (e.written.filter (·.1)).flatMap (·.2)

/-- The effect with all complaints in front of what is written otherwise. -/
def complaintsFirst (e : Effect) : Effect :=
  { e with written := e.written.filter (·.1) ++ e.written.filter fun w => !w.1 }

/-- The effect of one step after another; the greater status stays. -/
def andThen (e : Effect) (f : Volume → Effect) : Effect :=
  let g := f e.disk
  ⟨g.disk, e.written ++ g.written, max e.status g.status, g.rest <|> e.rest, g.sated⟩

/-- The effect with other output, behind its complaints. -/
def withOut (e : Effect) (t : Text) : Effect :=
  { e with written := e.written.filter (·.1) ++ [(false, t)] }

/-- The effect where the input is used up. -/
def usingInput (e : Effect) : Effect := { e with rest := some [] }

/-- The name of a program without the folders in front of it. -/
def plainName (name : Text) : String := String.ofList ((Text.pieces '/' name).getLast?.getD [])

/-- The lines in which a utility complains that it could not write, and its status; some lines tell
whether it has read its input. -/
def lossOf (name : Text) (u : Unsent) (reading : Bool) : List String × Nat :=
  let standard := "'standard output': " ++ u.words
  match plainName name with
  | "ls" | "dir" | "vdir" | "grep" | "egrep" | "fgrep" => (["write error: " ++ u.words], 2)
  | "sort" =>
    (["fflush failed: " ++ standard,
      if reading && u = .badStream then "write error: " ++ u.words else "write error"], 2)
  | "sed" => ([(if u = .badStream then "couldn't close stdout: " else "couldn't flush stdout: ") ++ u.words], 4)
  | "tee" => ([standard], 1)
  | "diff" => (["standard output: " ++ u.words], 2)
  | "cat" => ([(if u = .badStream then "standard output: " else "write error: ") ++ u.words], 1)
  | "wc" => ([if u = .noRoom then "write error" else "write error: " ++ u.words], 1)
  | _ => (["write error: " ++ u.words], 1)

/-- The effect without so many characters that have been written already. -/
def without (e : Effect) (n : Nat) : Effect :=
  if n = 0 then e
  else { e with written := e.written.filter (·.1) ++ [(false, e.out.drop n)] }

/-- Complains if something could not be written. -/
def complainUnsent (name : Text) (reading : Bool) : Act Unit := do
  match (← get).unsent with
  | none => return
  | some u => do
    let (lines, status) := lossOf name u reading
    for line in lines do
      Act.write 2 (name ++ say (": " ++ line ++ "\n"))
    modify fun s => { s with status, unsent := none }

/-- Changes the disk and writes as a utility of a given name leaves it. -/
def apply (e : Effect) (name : Text) : Act Unit := do
  modify fun s => { s.withDisk e.disk with status := e.status, unsent := none }
  match e.disk.unsent with
  | [] => pure ()
  | more => do
    modify fun s => s.withDisk e.disk.sent
    for (stream, data) in more do
      Act.send stream data
  for pieces in e.written.splitBy fun a b => a.1 = b.1 do
    Act.write (if (pieces.head?).any (·.1) then 2 else 1) (pieces.flatMap (·.2))
  complainUnsent name e.rest.isSome

end Effect

namespace Call

/-- The variables of an environment, in order. -/
def variablesOf (env : Environment) (s : State) : List (Text × Text) :=
  s.exportedNames.filterMap fun n => (env (toText n)).map fun v => (n, ofText v)

/-- The call of a utility by its words, with nothing to read. -/
def ofState (env : Environment) (words : List Text) (s : State) : Call :=
  ⟨s.disk, [], words.headD [], words.tail, variablesOf env s, s.readsFile 0⟩

/-- The call with other arguments. -/
def withArguments (c : Call) (args : List Text) : Call := { c with arguments := args }

/-- An end without output. -/
def finish (c : Call) (status : Nat) : Effect := ⟨c.disk, [], status, none, false⟩

/-- Output and success. -/
def ok (c : Call) (out : Text) : Effect := ⟨c.disk, [(false, out)], 0, none, false⟩

/-- Success with a changed disk. -/
def changed (d : Volume) : Effect := ⟨d, [], 0, none, false⟩

/-- A complaint. -/
def refuse (c : Call) (status : Nat) (message : Text) : Effect :=
  ⟨c.disk, [(true, c.name ++ say ": " ++ message ++ ['\n'])], status, none, false⟩

/-- A complaint about how the utility is used. -/
def misuse (c : Call) (status : Nat) (message : Text) : Effect :=
  c.refuse status (message ++ say "\nTry '" ++ c.name ++ say " --help' for more information.")

/-- A complaint about the lack of an argument. -/
def missing (c : Call) (what : String) : Effect := c.misuse 1 (say ("missing " ++ what))

/-- Whether the utility writes for readers of UTF-8. -/
def speaksUtf8 (c : Call) : Bool := usesUtf8 c.vars

/-- A text in the quotation marks of the language. -/
def quote (c : Call) (t : Text) : Text := quoteFor c.speaksUtf8 t

/-- A text in quotation marks as a shell reads them. -/
def named (c : Call) (t : Text) : Text := quoteAlways c.speaksUtf8 t

/-- A text in quotation marks as a shell reads them, if a shell needs them. -/
def shown (c : Call) (t : Text) : Text := quoteIfOdd c.speaksUtf8 t

end Call

end Shell
end IconAssets
