import IconAssets.Shell.Engine
import IconAssets.Shell.Utility.Table

/-!
# Running programs

A program is run by a process of its own, or in the place of the process that asks for it.  A utility
that works on its input is given all of it at once; where the input comes piece by piece, it ends as
soon as it asks for no more.
-/

namespace IconAssets
namespace Shell

/-- Runs a script as a shell that has just started. -/
def runStarted (env : Environment) (e : Engine) (script : Text) : Act Unit :=
  finishing env e (e.script env 1 (script.filter (· ≠ '\x00')))

/-- Sets the options of a new shell by their letters; tells whether one of them says that a script
comes behind the options, and gives the arguments that hold no names of options. -/
def startLetters (on : Bool) : Text → Bool → List Text → Act (Bool × List Text)
  | [], given, rest => return (given, rest)
  | 'o' :: cs, given, rest => do startLetters on cs given (← Builtin.setNamed on rest)
  | c :: cs, given, rest => do
    if c = 'c' then startLetters on cs true rest
    else
      if c ≠ 'l' then Builtin.setOption on c
      startLetters on cs given rest

/-- Sets the options of a new shell, and gives the arguments behind them.  No more options are looked
for than there are arguments. -/
def startOptions : Nat → Bool → List Text → Act (Bool × List Text)
  | 0, given, rest => return (given, rest)
  | _, given, [] => return (given, [])
  | n + 1, given, a :: rest => do
    match a with
    | ['-'] | ['-', '-'] => return (given, rest)
    | '-' :: cs => do
      let (given, rest) ← startLetters true cs given rest
      startOptions n given rest
    | '+' :: cs => do
      let (given, rest) ← startLetters false cs given rest
      startOptions n given rest
    | _ => return (given, a :: rest)

/-- Runs a script as a shell does it that goes on behind it. -/
def runWhole (env : Environment) (e : Engine) (script : Text) : Act Unit :=
  Act.continuing (runStarted env e script)

/-- The script in a file.  A folder can be opened, but nothing can be read from it. -/
def scriptIn (file : Text) : Act (Except Disk.Fault Text) := do
  if file ∈ Utility.inputPaths then return .ok (ofBytes (← Act.receiveAll 0))
  else
    match (← get).disk.readFile (Pattern.pathOf file) with
    | .ok data => return .ok (ofBytes data)
    | .error .isFolder => return .ok []
    | .error fault => return .error fault

/-- Runs a shell with its arguments.  A script comes from an argument, a file or the input. -/
def runShell (env : Environment) (e : Engine) (args : List Text) : Act Unit := do
  modify fun s => { s with line := 0, bindings := s.startBindings }
  if (env (toText searchVariable)).isNone then
    modify fun s => s.setVariable searchVariable (some ⟨some Program.shellSearchPath, false, false⟩)
  let (fromArgument, rest) ← startOptions args.length false args
  if rest = [] && !fromArgument then
    modify fun s => { s with options := Switch.turn .stdin true s.options }
  Builtin.checkMonitor
  let s ← get
  match fromArgument, rest with
  | true, [] => Act.refuse (say "-c requires an argument")
  | true, script :: more => do
    set { s with name := more.headD s.name, arguments := more.tail }
    runStarted env e script
  | false, [] => fromInput
  | false, file :: more =>
    if s.has .stdin then do
      set { s with arguments := rest }
      fromInput
    else
      match ← scriptIn file with
      | .error fault => Act.refuse (openWords false file fault)
      | .ok t => do
        modify fun s => { s with name := file, arguments := more }
        runWhole env e t
where
  /-- Runs the script that is the input. -/
  fromInput : Act Unit := do
    runWhole env e (ofBytes (← Act.receiveAll 0))

/-- The names of shells. -/
def shells : List Text := ["sh", "dash", "bash", "rbash"].map String.toList

/-- The environment with given variables. -/
def environmentOf (vars : List (Text × Text)) : Environment := fun name =>
  (vars.lookup (ofText name)).map toText

/-- When a utility writes what it tells of its input. -/
inductive Eagerness where
  /-- When it has read all of it. -/
  | atEnd
  /-- Whenever a block is full. -/
  | inBlocks
  /-- As soon as it has read something. -/
  | atOnce
  deriving DecidableEq, Repr

/-- When the utility of a call writes. -/
def eagernessOf (c : Call) : Eagerness :=
  match Effect.plainName c.name with
  | "cat" | "tee" => .atOnce
  | "tr" | "sed" | "grep" | "egrep" | "fgrep" | "cut" | "nl" | "paste" | "fold" | "expand" |
    "unexpand" | "rev" | "uniq" | "od" | "base64" | "base32" | "head" | "comm" | "join" => .inBlocks
  | "tail" => if c.arguments.any fun a => '+' ∈ a then .inBlocks else .atEnd
  | _ => .atEnd

/-- Whether files that a utility writes may be written before it has read all of its input. -/
def savesEarly (c : Call) : Bool :=
  Effect.plainName c.name = "tee" && c.arguments.all fun a => a.head? ≠ some '-'

/-- The number of bytes in a block. -/
def blockSize : Nat := 4096

/-- The number of characters that two texts have in common at their start. -/
def sharedLength : Text → Text → Nat
  | a :: s, b :: t => if a = b then sharedLength s t + 1 else 0
  | _, _ => 0

theorem take_sharedLength (s t : Text) : s.take (sharedLength s t) = t.take (sharedLength s t) := by
  induction s generalizing t with
  | nil => simp [sharedLength]
  | cons a s ih =>
    cases t with
    | nil => simp [sharedLength]
    | cons b t =>
      by_cases h : a = b
      · simp [sharedLength, h, ih]
      · simp [sharedLength, h]

/-- What a utility has done with its input so far. -/
structure Feeding where
  input : Text
  /-- The number of characters of the input at which it is tried again. -/
  size : Nat
  /-- What it tells of the input. -/
  out : Text
  /-- The number of characters that it has written. -/
  sent : Nat

namespace Feeding

/-- The number of characters that can be written when more of the output is known. -/
def ready (f : Feeding) (eagerness : Eagerness) (out : Text) : Nat :=
  match eagerness with
  | .atEnd => f.sent
  | .inBlocks => max f.sent (sharedLength f.out out / blockSize * blockSize)
  | .atOnce => max f.sent out.length

/-- The number of characters of the input at which a utility is tried again. -/
def nextSize (eagerness : Eagerness) (length : Nat) : Nat :=
  if eagerness = .atOnce && length < blockSize then length + 1 else 2 * length

end Feeding

/-- Runs a utility that works on its input, which comes piece by piece.  It is tried on what there is
each time that has become twice as much, up to where it asks for no more, and writes what will not
change; each call takes a piece. -/
def feed (run : Call → Effect) (c : Call) (k : Nat) (h : Handle) : Nat → Feeding → Act Unit
  | 0, f => do
    let c := { c with disk := (← get).disk, input := f.input }
    ((run c).without f.sent).apply c.name
  | fuel + 1, f => do
    let piece ← Act.receiveFrom k h
    let input := f.input ++ ofBytes piece
    if piece ≠ [] && input.length < f.size then feed run c k h fuel { f with input }
    else do
      let c := { c with disk := (← get).disk, input }
      let e := run c
      if piece = [] || e.sated then (e.without f.sent).apply c.name
      else do
        if savesEarly c then modify fun s => s.withDisk e.disk
        let out := e.out
        let ready := f.ready (eagernessOf c) out
        modify fun s => { s with unsent := none }
        Act.write 1 ((out.drop f.sent).take (ready - f.sent))
        if (← get).unsent.isSome then Effect.complainUnsent c.name true
        else feed run c k h fuel ⟨input, Feeding.nextSize (eagernessOf c) input.length, out, ready⟩

/-- Whether a utility that finds its input closed writes what it tells of an empty one; the lines in
which it complains; and its status. -/
def closedInput (name : Text) : Bool × List String × Nat :=
  let bad := "Bad file descriptor"
  match Effect.plainName name with
  | "cat" => (true, ["-: " ++ bad, "closing standard input: " ++ bad], 1)
  | "wc" => (true, ["'standard input': " ++ bad, "-: " ++ bad], 1)
  | "head" => (true, ["error reading 'standard input': " ++ bad, "-: " ++ bad], 1)
  | "tail" => (true, ["cannot fstat 'standard input': " ++ bad, "-: " ++ bad], 1)
  | "sort" => (false, ["stat failed: -: " ++ bad], 2)
  | "uniq" => (true, ["error reading '-': " ++ bad], 1)
  | "tr" | "base64" | "base32" | "shuf" | "join" => (false, ["read error: " ++ bad], 1)
  | "sed" => (true, ["read error on stdin: " ++ bad], 4)
  | "grep" | "egrep" | "fgrep" => (true, ["(standard input): " ++ bad], 2)
  | "tee" => (true, ["read error: " ++ bad, "standard input: " ++ bad], 1)
  | "tac" => (true, ["'standard input': read error: " ++ bad, "-: " ++ bad], 1)
  | "od" => (true, ["'standard input': " ++ bad, "standard input: " ++ bad], 1)
  | "cmp" | "diff" => (false, ["-: " ++ bad], 2)
  | "comm" => (false, ["-: " ++ bad], 1)
  | "cut" | "nl" | "paste" | "fold" | "expand" | "unexpand" => (true, ["-: " ++ bad, "-: " ++ bad], 1)
  | _ => (false, ["-: " ++ bad, "standard input: " ++ bad], 1)

/-- What a utility leaves behind that finds its input closed. -/
def withoutInput (c : Call) (e : Effect) : Effect :=
  let (writes, lines, status) := closedInput c.name
  { e with
    written := lines.map (fun line => (true, c.name ++ say (": " ++ line ++ "\n"))) ++
      if writes then e.written else []
    status }

/-- The utilities that read the files that they are given. -/
def fileReaders : List String :=
  ["cat", "head", "tail", "wc", "sort", "uniq", "grep", "egrep", "fgrep", "sed", "cut", "paste", "nl",
    "tac", "rev", "od", "fold", "expand", "unexpand", "comm", "join", "cmp", "diff", "base64",
    "base32", "cksum", "sum"]

/-- Reads the pipes among the arguments of a call; the answer is the numbers of their nodes with what
they are and what has come. -/
def readPipes (c : Call) : List Text → Act (List (Nat × Body × Bytes))
  | [] => return []
  | a :: as => do
    match c.disk.numberOf? (Pattern.pathOf a) with
    | none => readPipes c as
    | some n =>
      if ← Act.isPipe n then do
        let k ← Act.openPipe n true false false
        let data ← Act.drain k ⟨.pipe 0, 0, true, false, false⟩ Act.maxPieces []
        Act.release k
        let body := (((← get).system.volume.node? n).map (·.body)).getD (.pipe none)
        return (n, body, data) :: (← readPipes c as)
      else readPipes c as

/-- Reads the streams among the arguments of a call; the answer is the numbers of their nodes with what
they are and what has come. -/
def readStreams (c : Call) : List Text → Act (List (Nat × Body × Bytes))
  | [] => return []
  | a :: as => do
    match c.disk.numberOf? (Pattern.pathOf a) with
    | none => readStreams c as
    | some n =>
      match (c.disk.node? n).map Node.body with
      | some (.device (.stream k unsent)) => do
        let data ← if k = 0 then Act.receiveAll 0 else pure []
        return (n, .device (.stream k unsent), data) :: (← readStreams c as)
      | _ => readStreams c as

/-- A utility that finds some nodes to be files. -/
def withPipes (pipes : List (Nat × Body × Bytes)) (run : Call → Effect) (c : Call) : Effect :=
  let become (d : Volume) (n : Nat) (body : Body) : Volume := d.onNode n fun m => { m with body }
  let e := run { c with disk := pipes.foldl (fun d p => become d p.1 (.file p.2.2)) c.disk }
  { e with disk := pipes.foldl (fun d p => become d p.1 p.2.1) e.disk }

/-- Runs a utility that works on its input. -/
def work (run : Call → Effect) (c : Call) : Act Unit := do
  let pipes ← if Effect.plainName c.name ∈ fileReaders then readPipes c c.arguments
    else if Effect.plainName c.name ∈ ["cp", "install"] then readStreams c c.arguments.dropLast
    else pure []
  let c := { c with disk := (← get).disk }
  let run := if pipes = [] then run else withPipes pipes run
  let dry := run c
  match dry.rest, (← get).handle? 0 with
  | some _, some (k, h) =>
    if !h.reads then dry.apply c.name
    else
      match h.target with
      | .pipe _ => feed run c k h Act.maxPieces ⟨[], 0, [], 0⟩
      | .node _ => do
        let data ← Act.receiveFrom k h
        let e := run { c with input := ofBytes data }
        Act.moveHandle k (· - (e.rest.getD []).length)
        e.apply c.name
  | some _, none => (withoutInput c dry).apply c.name
  | none, _ => dry.apply c.name

/-- Runs a program that has been loaded, in the place of the process; the first argument bounds how
many programs start each other. -/
def runImage : Nat → Environment → Engine → Image → Act Unit
  | 0, _, _, _ => throw (.killed deadlySignal)
  | fuel + 1, env, e, i => do
    modify fun s => { s with name := i.words.headD [], root := s.process }
    if i.program ∈ shells then runShell env e i.words.tail
    else do
      let c := Call.ofState env i.words (← get)
      match Utility.find? (String.ofList i.program) with
      | none => Act.setStatus 126
      | some (.working run) => work run c
      | some (.starting run) =>
        let become (vars : List (Text × Text)) (words : List Text) : Act (Option Disk.Fault) := do
          match Program.find (← get).disk (environmentOf vars) words with
          | .error fault => return some fault
          | .ok image => do
            modify fun s => s.become [] [] (vars.map (·.1))
            runImage fuel (environmentOf vars) e image
            return none
        let launch (vars : List (Text × Text)) (words : List Text) :
            Act (Except Disk.Fault Nat) := do
          match Program.find (← get).disk (environmentOf vars) words with
          | .error fault => return .error fault
          | .ok image =>
            return .ok (← Act.fork (·.become [] [] (vars.map (·.1)))
              (runImage fuel (environmentOf vars) e image))
        run ⟨become, launch⟩ c

/-- The greatest number of programs that start each other. -/
def maxStarts : Nat := 1000

/-- Finds a program of a given name and runs it, in a new process or in the place of this one. -/
def runNamed (env : Environment) (e : Engine) (instead : Bool) (name : Text) (args : List Text) :
    Act Unit := do
  let s ← get
  let inner := s.environment env
  let values := s.values env
  let failed (status : Nat) (fault : Disk.Fault) : Act Unit := do
    Act.complain (name ++ say ": " ++ launchWords fault)
    Act.setStatus status
    if instead then throw .exit
  let places ← if instead then pure (.ok (Program.candidates values name))
    else if '/' ∈ name then pure (.ok [name])
    else Builtin.track env name
  let s ← get
  match places with
  | .error fault => failed 127 fault
  | .ok paths =>
    match Program.loadAny s.disk (name :: args) .missing paths with
    | .error fault => failed (launchStatus fault) fault
    | .ok image => do
      let started (s : State) : State := s.become s.name s.arguments s.exportedNames
      if instead || (s.final && !s.hasTraps) then do
        set (started s)
        runImage maxStarts inner e image
        throw .exit
      else Act.runForeground started (runImage maxStarts inner e image)

end Shell
end IconAssets
