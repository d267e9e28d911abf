import IconAssets.Shell.Process

/-!
# What the name of a command means

A special command of the shell comes before a function of that name, a function before the other
commands of the shell, and these before programs.
-/

namespace IconAssets
namespace Shell

/-- Sends a signal to the shell itself. -/
def strikeSelf (signal : Nat) : Act Unit := do
  match (← get).reaction signal with
  | .nothing => return
  | .note => modify fun s => { s with pending := signal :: s.pending }
  | .stop => discard (Act.pause .signal)
  | .death => throw (.killed signal)

/-- Sends a signal to the processes that a number means: a process, or a group if it is negative or
zero; the answer tells whether there are any. -/
def strike (target : Int) (signal : Nat) : Act Bool := do
  let s ← get
  if target = s.process then do
    strikeSelf signal
    return true
  else if 0 < target then Act.signal (.process target.toNat) signal
  else do
    let group := if target = 0 then s.group else target.natAbs
    let found ← Act.signal (.others group) signal
    if group = s.group then do
      strikeSelf signal
      return true
    else return found

/-- Writes the name of a signal that a status or a number means, or the names of all. -/
def listSignals (args : List Text) : Act Unit := do
  match args with
  | [] =>
    Builtin.writeLine ['0']
    for n in List.range 64 do
      Builtin.writeLine (Builtin.signalName (n + 1))
  | n :: _ =>
    let i ← Builtin.numberOf n
    let k := if 128 < i then i - 128 else i
    if 0 < k && k ≤ 64 then Builtin.writeLine (Builtin.signalName k)
    else Act.refuse (say "invalid signal number or exit status: " ++ n)

/-- What is wrong with the arguments of the command that sends signals. -/
def signalUsage : Text :=
  say "Usage: kill [-s sigspec | -signum | -sigspec] [pid | job]... or\nkill -l [exitstatus]"

/-- The options of the command that sends signals: whether it lists them, which it sends, and what is
left of the arguments; each call reads one letter. -/
def signalOptions (listing : Bool) (signal : Option Nat) :
    Nat → List Text → Act (Bool × Option Nat × List Text)
  | 0, args => return (listing, signal, args)
  | fuel + 1, args =>
    let given (t : Text) (rest : List Text) : Act (Bool × Option Nat × List Text) :=
      match Builtin.signal? t with
      | some n => signalOptions listing (some n) fuel rest
      | none => Act.refuse (say "invalid signal number or name: " ++ t)
    match args with
    | ['-', '-'] :: rest => return (listing, signal, rest)
    | ('-' :: 'l' :: cs) :: rest =>
      signalOptions true signal fuel (if cs = [] then rest else ('-' :: cs) :: rest)
    | ['-', 's'] :: t :: rest => given t rest
    | [['-', 's']] => Act.refuse (say "No arg for -s option")
    | ('-' :: 's' :: t) :: rest => given t rest
    | ('-' :: c :: _) :: _ => Act.refuse (say "Illegal option -" ++ [c])
    | _ => return (listing, signal, args)

/-- The number that an argument is, which has a minus sign if it means a group. -/
def targetOf (t : Text) : Act Int := do
  if t.head? = some '%' then
    return -(((← Builtin.jobOf t).processes.head?.map fun p => (p.1 : Int)).getD 0)
  else
    match t with
    | '-' :: n => return -((← Builtin.numberOf n) : Int)
    | _ => return ((← Builtin.numberOf t) : Int)

/-- Sends signals. -/
def kill (args : List Text) : Act Unit := do
  let (listing, signal?, targets) ← match args with
    | ('-' :: n) :: rest =>
      match Builtin.signal? n with
      | some k => pure (false, some k, rest)
      | none => signalOptions false none (args.flatten.length + 1) args
    | _ => pure (false, none, args)
  let signal? := if listing then signal? else some (signal?.getD 15)
  if (signal?.isNone || targets = []) != listing then Act.refuse signalUsage
  if listing then
    Act.setStatus 0
    return ← listSignals targets
  let signal := signal?.getD 15
  Act.setStatus 0
  for t in targets do
    let target ← targetOf t
    if !(← strike target signal) then do
      Act.complain (say "No such process\n")
      Act.setStatus 1

/-- Does something, and brings back what it saves. -/
def restoringSaved (body : Act Unit) : Act Unit :=
  Act.during
    (fun s => { s with saved := ⟨[], none⟩ :: s.saved })
    (fun s t =>
      let kept := t.saved.headD ⟨[], none⟩
      let t := kept.locals.foldl (fun t v => t.setVariable v.1 v.2) t
      { t with saved := s.saved, options := kept.options.getD t.options })
    body

/-- The greatest number of functions that are run inside each other. -/
def maxCalls : Nat := 1000

/-- Runs a function. -/
def callFunction (env : Environment) (e : Engine) (body : Command) (args : List Text) :
    Act Unit := do
  if maxCalls ≤ (← get).saved.length then
    Act.refuse (say ("Maximum function recursion depth (" ++ toString maxCalls ++ ") reached"))
  Act.during
    (fun s => { s with arguments := args, loops := 0 })
    (fun s t => { t with arguments := s.arguments, loops := s.loops })
    (restoringSaved (Act.untilBack (Act.continuing (e.run env body))))

/-- Reads the commands of a file. -/
def source (env : Environment) (e : Engine) (args : List Text) : Act Unit := do
  let (_, args) ← Builtin.optionsOf [] args
  Act.setStatus 0
  match args with
  | [] => return
  | file :: _ => do
    let s ← get
    let path? := if '/' ∈ file then some file
      else (Program.candidates (s.values env) file).find? fun p =>
        s.disk.isFile (Pattern.pathOf p)
    match path? with
    | some path =>
      match ← scriptIn path with
      | .ok t => Act.labelled path (Act.untilBack (Act.continuing (e.script env 1 t)))
      | .error fault => Act.refuse (openWords false file fault)
    | none => Act.refuse (file ++ say ": not found")

/-- Does what a command of the shell does, and complains if something could not be written. -/
def sent (name : Text) (body : Act Unit) : Act Unit := do
  modify fun s => { s with unsent := none }
  body
  if (← get).unsent.isSome then
    Act.complain (name ++ say ": I/O error")
    modify fun s => { s with unsent := none, status := s.status ||| 1 }

mutual

/-- Runs a command that runs other commands, given its arguments. -/
def runRunner (env : Environment) (e : Engine) : Nat → String → List Text → Act Unit
  | 0, _, _ => throw (.killed deadlySignal)
  | fuel + 1, name, args =>
    match name with
    | "." => source env e args
    | "eval" => do
      Act.setStatus 0
      if args ≠ [] then Act.continuing (e.script env 1 (Text.glue ' ' args))
    | "exec" =>
      match args with
      | [] => Act.setStatus 0
      | n :: rest => runNamed env e true n rest
    | "type" => do
      Act.setStatus 0
      for a in args do
        Builtin.describe env Builtin.names false a
    | "command" => do
      let (options, args) ← Act.labelled "command".toList
        (Builtin.optionsOf ['p', 'v', 'V'] args)
      Act.setStatus 0
      match args with
      | [] => return
      | n :: rest =>
        if 'v' ∈ options || 'V' ∈ options then
          Act.labelled "command".toList (sent "command".toList
            (Builtin.describe env Builtin.names ('V' ∉ options) n))
        else Act.forgiven (restoringSaved (runWords env e fuel false n rest))
    | "kill" => kill args
    | _ => return

/-- Runs a command of the shell, a function or a program, given its arguments. -/
def runWords (env : Environment) (e : Engine) : Nat → Bool → Text → List Text → Act Unit
  | 0, _, _, _ => throw (.killed deadlySignal)
  | fuel + 1, functions, name, args => do
    let s ← get
    let isSpecial : Bool := name ∈ reservedNames
    let body? := if functions && !isSpecial then s.functions.lookup name else none
    let guarded (body : Act Unit) : Act Unit :=
      Act.labelled name (if isSpecial then sent name body else Act.forgiven (sent name body))
    match body? with
    | some body => callFunction env e body args
    | none =>
      if name = "command".toList then Act.forgiven (runRunner env e fuel "command" args)
      else if name ∈ Builtin.runners then guarded (runRunner env e fuel (String.ofList name) args)
      else
        match Builtin.all.lookup name with
        | some run => guarded (run env args)
        | none => runNamed env e false name args

end

end Shell
end IconAssets
