import IconAssets.Shell.Utility.Words

/-!
# Utilities that start programs

Each runs a program whose name and arguments it is given: in another environment, in another way, for
some time, or again and again with words from the input.  What keeps a program from running is told
in the utility's own words.  With them are the utilities that take time.
-/

namespace IconAssets
namespace Shell
namespace Utility

/-- A utility that starts programs: a complaint, or what it does. -/
abbrev Start := Starter → Call → Act Unit

/-- Leaves what an effect leaves, except for its disk: others may have changed the disk meanwhile. -/
def leave (c : Call) (e : Effect) : Act Unit := do
  let disk := (← get).disk
  { e with disk }.apply c.name

/-- Goes on with the settings and the other arguments. -/
def withOptions (c : Call) (letters : String) (names : List String) (misused : Nat)
    (go : List Setting → List Text → Act Unit) : Act Unit :=
  match Options.read (.ofTables letters names) c.arguments with
  | .ok (settings, rest) => go settings rest
  | .error message => leave c (c.misuse misused message)

/-- The status for a program that cannot be run. -/
def startStatus (fault : Disk.Fault) : Nat := if fault = .missing then 127 else 126

/-- Runs a program in the place of the utility; `message` is put in front of what is wrong. -/
def becoming (s : Starter) (c : Call) (vars : List (Text × Text)) (words : List Text)
    (message : Text) (behind : Disk.Fault → Text) : Act Unit := do
  match ← s.become vars words with
  | none => return
  | some fault =>
    let e := c.refuse (startStatus fault) (message ++ say ": " ++ faultWords fault)
    leave c { e with
      written := e.written ++ if behind fault = [] then [] else
        [(true, c.name ++ say ": " ++ behind fault ++ ['\n'])] }

/-- The words of a text that is split as a shell would do it, or what is wrong with it. -/
def splitWords (vars : List (Text × Text)) : Nat → Option Char → Option Text → Text →
    Except String (List Text)
  | 0, _, _, _ => .ok []
  | _ + 1, none, current, [] => .ok current.toList
  | _ + 1, some _, _, [] => .error "no terminating quote in -S string"
  | fuel + 1, quoteMark, current, c :: t =>
    let add (x : Text) (rest : Text) : Except String (List Text) :=
      splitWords vars fuel quoteMark (some (current.getD [] ++ x)) rest
    let isGap (c : Char) : Bool := c = ' ' || ('\t' ≤ c && c ≤ '\r')
    if quoteMark = some c then splitWords vars fuel none current t
    else if quoteMark = none && (c = '\'' || c = '"') then
      splitWords vars fuel (some c) (some (current.getD [])) t
    else if quoteMark = none && isGap c then do
      return current.toList ++ (← splitWords vars fuel none none t)
    else if quoteMark = none && current = none && c = '#' then .ok []
    else if quoteMark = some '\'' && c = '\\' then
      match t with
      | x :: rest => if x = '\'' || x = '\\' then add [x] rest else add ['\\'] t
      | [] => add ['\\'] []
    else if c = '\\' then
      match t with
      | [] => .error "invalid backslash at end of string in -S"
      | x :: rest =>
        if x = '_' then
          if quoteMark = none then do
            return current.toList ++ (← splitWords vars fuel none none rest)
          else add [' '] rest
        else if x = 'c' then
          if quoteMark = none then .ok current.toList
          else .error "'\\c' must not appear in double-quoted -S string"
        else if x ∈ ['"', '#', '$', '\'', '\\'] then add [x] rest
        else if x ∈ ['f', 'n', 'r', 't', 'v'] then add (control? x).toList rest
        else .error ("invalid sequence '\\" ++ String.ofList [x] ++ "' in -S")
    else if c = '$' && quoteMark ≠ some '\'' then
      let name := (t.drop 1).takeWhile (· ≠ closeBrace)
      if t.head? = some openBrace && isName name && name.length + 1 < t.length then
        let value := (vars.lookup name).getD []
        if value = [] && current = none && quoteMark = none then
          splitWords vars fuel quoteMark current (t.drop (name.length + 2))
        else add value (t.drop (name.length + 2))
      else
        .error ("only ${VARNAME} expansion is supported, error at: " ++ String.ofList (c :: t))
    else add [c] t

/-- The arguments with the words of a text in the place of an option for it. -/
def withSplit (c : Call) : Nat → List Text → Except String (List Text)
  | 0, args => .ok args
  | _ + 1, [] => .ok []
  | fuel + 1, a :: rest =>
    let split (t : Text) (front : List Text) (rest : List Text) : Except String (List Text) := do
      let words ← splitWords c.vars (t.length + 1) none none t
      withSplit c fuel (front ++ words ++ rest)
    let long := "--split-string".toList
    match a with
    | '-' :: 'S' :: cs => if cs = [] then (match rest with
        | t :: more => split t [] more
        | [] => .ok (a :: rest)) else split cs [] rest
    | '-' :: 'v' :: 'S' :: cs => split cs [['-', 'v']] rest
    | _ =>
      if (long ++ ['=']).isPrefixOf a then split (a.drop (long.length + 1)) [] rest
      else if a = long then (match rest with
        | t :: more => split t [] more
        | [] => .ok (a :: rest))
      else if a = ['-', 'u'] || a = ['-', 'C'] then do
        return a :: rest.take 1 ++ (← withSplit c fuel (rest.drop 1))
      else if a.head? = some '-' && a.length ≠ 1 && a ≠ ['-', '-'] then do
        return a :: (← withSplit c fuel rest)
      else .ok (a :: rest)

/-- Variables with one more assignment; a name that is there keeps its place. -/
def assigned (vars : List (Text × Text)) (name value : Text) : List (Text × Text) :=
  if (vars.lookup name).isSome then
    vars.map fun v => if v.1 = name then (name, value) else v
  else vars ++ [(name, value)]

/-- Runs a program in another environment, or writes the environment. -/
def env : Start := fun s c => do
  match withSplit c (c.arguments.length + 100) c.arguments with
  | .error message => leave c (c.refuse 125 (say message))
  | .ok args =>
    let gap := args.takeWhile (fun a => a.head? = some '-' && a.length ≠ 1 && a ≠ ['-', '-'])
    let odd := gap.findSome? fun a =>
      if a.tail.head? = some '-' then none
      else a.tail.find? fun x => x = ' ' || ('\t' ≤ x && x ≤ '\r')
    match odd with
    | some x =>
      let e := c.misuse 125 (say "invalid option -- " ++ Options.marked [x] ++ '\n' ::
        c.name ++ say ": use -[v]S to pass options in shebang lines")
      leave c e
    | none => withOptions (c.withArguments args) "+C:iu:v0" ["ignore-environment,i", "null,0",
        "unset=,u", "chdir=,C", "split-string=,S", "debug,v", "block-signal?=", "default-signal?=",
        "ignore-signal?=", "list-signal-handling"] 125 fun options rest => do
      let (clears, rest) := if rest.head? = some ['-'] then (true, rest.drop 1)
        else (isSet options "i", rest)
      let unsets := (options.filter fun o => o.1 = "u").map (·.2)
      match unsets.find? fun n => n = [] || '=' ∈ n with
      | some n =>
        leave c (c.refuse 125 (say "cannot unset " ++ c.quote n ++ say ": Invalid argument"))
      | none =>
        let start := if clears then [] else c.vars.filter fun v => v.1 ∉ unsets
        let assignments := rest.takeWhile fun a => '=' ∈ a
        let words := rest.drop assignments.length
        let vars := assignments.foldl (fun vs a =>
          let name := a.takeWhile (· ≠ '=')
          assigned vs name (a.drop (name.length + 1))) start
        match words, settingOf? options "C" with
        | [], some _ => leave c (c.misuse 125 (say "must specify command with --chdir (-C)"))
        | [], none =>
          let ending := if isSet options "0" then '\x00' else '\n'
          leave c (c.ok (vars.flatMap fun v => v.1 ++ '=' :: v.2 ++ [ending]))
        | name :: _, folder =>
          if isSet options "0" then
            leave c (c.misuse 125 (say "cannot specify --null (-0) with command"))
          else
            let target := folder.map fun t => c.disk.resolve (Pattern.pathOf t)
            match target with
            | some (.error fault) =>
              leave c (c.refuse 125 (say "cannot change directory to " ++
                c.named (folder.getD []) ++ say ": " ++ faultWords fault))
            | _ =>
              match target with
              | some (.ok p) => modify fun s => { s with working := p }
              | _ => pure ()
              if isSet options "v" then
                Act.write 2 (say "executing: " ++ name ++ '\n' ::
                  ((words.zipIdx 0).flatMap fun w =>
                    say "   arg[" ++ Text.ofNat w.2 ++ say "]= " ++ c.quote w.1 ++ ['\n']))
              becoming s c vars words (c.quote name) fun fault =>
                if fault = .missing && name.any fun x => x = ' ' || ('\t' ≤ x && x ≤ '\r') then
                  say "use -[v]S to pass options in shebang lines"
                else []

/-- Runs a program with another priority, of which nothing can be seen. -/
def nice : Start := fun s c => do
  let args := match c.arguments with
    | ('-' :: d :: t) :: rest => if d.isDigit then ['-', 'n'] :: (d :: t) :: rest else c.arguments
    | args => args
  withOptions (c.withArguments args) "+n:" ["adjustment=,n"] 125 fun options words => do
    match (settingOf? options "n").filter fun t => (integer? t).isNone, words with
    | some t, _ => leave c (c.refuse 125 (say "invalid adjustment " ++ c.quote t))
    | none, [] =>
      leave c (if isSet options "n" then c.misuse 125 (say "a command must be given with an adjustment")
        else c.ok ['0', '\n'])
    | none, name :: _ => becoming s c c.vars words (c.quote name) fun _ => []

/-- Runs a program that signals for the end of the line do not reach. -/
def nohup : Start := fun s c =>
  withOptions c "+" [] 125 fun _ words => do
    match words with
    | [] => leave c (c.misuse 125 (say "missing operand"))
    | name :: _ =>
      becoming s c c.vars words (say "failed to run command " ++ c.named name) fun _ => []

/-- Runs a program whose streams are passed on in other pieces, of which nothing can be seen. -/
def stdbuf : Start := fun s c =>
  withOptions c "+i:o:e:" ["input=,i", "output=,o", "error=,e"] 125 fun options words => do
    match words with
    | [] => leave c (c.misuse 125 (say "missing operand"))
    | name :: _ =>
      if options = [] then leave c (c.misuse 125 (say "you must specify a buffering mode option"))
      else
        becoming s c c.vars words (say "failed to run command " ++ c.named name) fun _ => []

/-- Runs a program in a session of its own, of which nothing can be seen. -/
def setsid : Start := fun s c =>
  withOptions c "+cfw" ["ctty,c", "fork,f", "wait,w"] 1 fun _ words => do
    match words with
    | [] => leave c (c.misuse 1 (say "no command specified"))
    | name :: _ => becoming s c c.vars words (say "failed to execute " ++ name) fun _ => []

/-- How long something may last. -/
inductive Duration where
  | forever
  | nanoseconds (n : Int)

/-- The duration that a text means. -/
def Duration.ofText? (t : Text) : Option Duration :=
  match Quantity.at? .double t with
  | some (q, _, rest) =>
    match ([([], 1), (['s'], 1), (['m'], 60), (['h'], 3600), (['d'], 86400)] :
        List (Text × Nat)).lookup rest, q with
    | some unit, .finite false num den => some (.nanoseconds (num * unit * 1000000000 / max den 1 : Nat))
    | some _, .infinite false => some .forever
    | _, _ => none
  | none => none

/-- The longest time that anybody waits. -/
def longest : Int := 1000000000000000000

/-- The number of nanoseconds of a duration. -/
def Duration.length : Duration → Int
  | .forever => longest
  | .nanoseconds n => min n longest

/-- Waits. -/
def sleep : Start := fun _ c =>
  withOptions c "+" [] 1 fun _ args => do
    let bad := args.filter fun a => (Duration.ofText? a).isNone
    if args = [] then leave c (c.missing "operand")
    else if bad ≠ [] then
      let e : Effect := ⟨c.disk, (bad.dropLast).map fun a =>
        (true, c.name ++ say ": invalid time interval " ++ c.quote a ++ ['\n']), 1, none, false⟩
      leave c (e.andThen fun _ =>
        c.misuse 1 (say "invalid time interval " ++ c.quote ((bad.getLast?).getD [])))
    else do
      let whole := (args.filterMap Duration.ofText?).foldl (fun (n : Int) d => n + d.length) 0
      let _ ← Act.pause (.moment ((← get).system.clock + whole))
      Act.setStatus 0

/-- The number of bytes that are written at once. -/
def blockSize : Nat := 8192

/-- Writes a text again and again until it cannot be written any more; each call writes it once. -/
def repeatForever (data : Bytes) : Nat → Act Unit
  | 0 => return
  | fuel + 1 => do
    Act.send 1 data
    if (← get).unsent.isNone then do
      Act.breathe
      repeatForever data fuel

/-- Writes a line without end. -/
def yes : Start := fun _ c => do
  let words := if c.arguments.head? = some ['-', '-'] then c.arguments.drop 1 else c.arguments
  match words with
  | ('-' :: x :: more) :: _ =>
    if x = '-' then
      leave c (c.misuse 1 (say "unrecognized option " ++ Options.marked ('-' :: x :: more)))
    else leave c (c.misuse 1 (say "invalid option -- " ++ Options.marked [x]))
  | _ => do
    let line := (if words = [] then ['y'] else Text.glue ' ' words) ++ ['\n']
    let block := (List.replicate (max 1 (blockSize / line.length)) line).flatten
    repeatForever (toBytes block) patience
    let words := ((← get).unsent.map Unsent.words).getD ""
    modify fun s => { s with unsent := none }
    leave c (c.refuse 1 (say ("standard output: " ++ words)))

/-- The signal that a text names, with or without the letters that all such names begin with. -/
def signalOf? (t : Text) : Option Nat :=
  let name := t.map Char.toUpper
  Builtin.signal? (if "SIG".toList.isPrefixOf name then name.drop 3 else name)

/-- The status of a program that has taken too long. -/
def lateStatus : Nat := 124

/-- Waits for a process for so long, and sends it a signal then; it is sent one that nothing survives
if it takes too long after that, too. -/
def joinInTime (c : Call) (process signal : Nat) (limit after : Option Int)
    (verbose alone : Bool) : Act (Ending × Bool) := do
  let clock := (← get).system.clock
  match ← Act.pause (.child [process] (limit.map (clock + ·)) false) with
  | .late => do
    strike signal
    let clock := (← get).system.clock
    match after with
    | none => return (← Act.join process, true)
    | some d =>
      match ← Act.pause (.child [process] (some (clock + d)) false) with
      | .late => do
        strike deadlySignal
        return (← Act.join process, true)
      | _ => return (← Act.join process, true)
  | _ => return (← Act.join process, false)
where
  /-- Sends a signal to the process and to all those of the group, unless it is to be alone. -/
  strike (n : Nat) : Act Unit := do
    if verbose then
      let name := (Builtin.signals.find? fun e => e.2 = n).elim (toString n) (·.1)
      Act.write 2 (c.name ++ say (": sending signal " ++ name ++ " to command ") ++
        c.quote (c.arguments.getD 0 []) ++ ['\n'])
    discard (Act.signal (.process process) n)
    if !alone then
      discard (Act.signal (.others (← get).group) n)
      if n = deadlySignal then throw (.killed n)

/-- Runs a program that may take no more than some time. -/
def timeout : Start := fun s c =>
  withOptions c "+fpk:s:v" ["foreground,f", "kill-after=,k", "preserve-status,p", "signal=,s",
    "verbose,v"] 125 fun options words => do
    let times := (options.filter fun o => o.1 = "k").map (·.2) ++ words.take 1
    let signal := match settingOf? options "s" with
      | some t => signalOf? t
      | none => some 15
    match words, times.find? fun t => (Duration.ofText? t).isNone, signal with
    | _ :: _ :: _, some t, _ => leave c (c.misuse 125 (say "invalid time interval " ++ c.quote t))
    | _ :: _ :: _, none, none =>
      leave c (c.misuse 125 (c.quote ((settingOf? options "s").getD []) ++ say ": invalid signal"))
    | first :: name :: _, none, some signal => do
      modify fun s => { s with group := s.process }
      let lengthOf (t : Text) : Option Int :=
        ((Duration.ofText? t).map Duration.length).filter (0 < ·)
      match ← s.launch c.vars (words.drop 1) with
      | .error fault =>
        leave c (c.refuse (startStatus fault) (say "failed to run command " ++ c.quote name ++
          say ": " ++ faultWords fault))
      | .ok process => do
        let (e, isLate) ← joinInTime (c.withArguments [name]) process signal (lengthOf first)
          ((settingOf? options "k").bind lengthOf) (isSet options "v") (isSet options "f")
        let keeps := isSet options "p" || e = .killed deadlySignal
        match e, isLate with
        | .killed n, false => throw (.killed n)
        | e, _ => Act.setStatus (if isLate && !keeps then lateStatus else e.status)
    | _, _, _ => leave c ⟨c.disk, [(true, say "Try '" ++ c.name ++ say " --help' for more information.\n")],
        125, none, false⟩

/-- A reading of the items of an input: the mark that quotes, the item so far, the number of the
line, and whether a blank has just been read. -/
structure ItemReading where
  mark : Option Char
  current : Option Text
  line : Nat
  blank : Bool

/-- The items of an input: words between blanks, or whole lines, in which quotation marks and
backslashes keep what has a meaning, each with the number of its line; and the mark behind them that
has no partner.  A blank at the end of a line joins it with the next one. -/
def itemsOf (whole : Bool) : Nat → ItemReading → Text → List (Text × Nat) × Option Char
  | 0, _, _ => ([], none)
  | _ + 1, r, [] =>
    match r.mark with
    | some q => ([], some q)
    | none => (r.current.toList.map fun t => (t, r.line), none)
  | fuel + 1, r, c :: t =>
    let add (x rest : Text) : List (Text × Nat) × Option Char :=
      itemsOf whole fuel { r with current := some (r.current.getD [] ++ x), blank := false } rest
    let finish (r : ItemReading) : List (Text × Nat) × Option Char :=
      let (more, q) := itemsOf whole fuel
        { r with current := none, line := if c = '\n' && !r.blank then r.line + 1 else r.line,
                 blank := c ≠ '\n' && r.current.isSome && !whole } t
      ((r.current.toList.map fun t => (t, r.line)) ++ more, q)
    match r.mark with
    | some q =>
      if c = q then itemsOf whole fuel { r with mark := none } t
      else if c = '\n' then ([], some q)
      else add [c] t
    | none =>
      if c = '\'' || c = '"' then
        itemsOf whole fuel { r with mark := some c, current := some (r.current.getD []), blank := false } t
      else if c = '\\' then add (t.take 1) (t.drop 1)
      else if c = '\n' then finish r
      else if c = ' ' || c = '\t' then
        if whole && r.current.isSome then add [c] t else finish { r with blank := r.blank || !whole }
      else add [c] t

/-- Cuts a list into pieces of a length. -/
def inPieces {α : Type} (size : Nat) : Nat → List α → List (List α)
  | 0, _ => []
  | _ + 1, [] => []
  | fuel + 1, xs => xs.take (max size 1) :: inPieces size fuel (xs.drop (max size 1))

/-- How words from an input are turned into commands. -/
inductive Batching where
  /-- One command for each item, which takes the place of a mark. -/
  | replacing (mark : Text)
  /-- So many items for each command. -/
  | byItems (n : Nat)
  /-- So many lines for each command. -/
  | byLines (n : Nat)
  | together

/-- The commands for items, each with the number of its line. -/
def Batching.commands (b : Batching) (command : List Text) (items : List (Text × Nat)) :
    List (List Text) :=
  let texts := items.map (·.1)
  match b with
  | .replacing mark => texts.map fun t => command.map fun w => Text.replaceAll mark t w
  | .byItems n => (inPieces n (items.length + 1) texts).map (command ++ ·)
  | .byLines n =>
    let lines := (firstOccurrences (items.map (·.2))).map fun k =>
      (items.filter fun i => i.2 = k).map (·.1)
    (inPieces n (items.length + 1) lines).map fun ls => command ++ ls.flatten
  | .together => if texts = [] then [] else [command ++ texts]

/-- Runs commands one after the other, up to one that ends all; the status tells the worst. -/
def runBatches (s : Starter) (c : Call) (verbose closed : Bool) : Nat → List (List Text) → Act Unit
  | status, [] => Act.setStatus status
  | status, words :: more => do
    if verbose then Act.write 2 (Text.glue ' ' words ++ ['\n'])
    let r ← Act.withStreams do
      if closed then Act.readNothing
      s.start c.vars words
    let tell (message : Text) (status : Nat) : Act Unit := do
      Act.write 2 (c.name ++ say ": " ++ words.headD [] ++ say ": " ++ message ++ ['\n'])
      Act.setStatus status
    match r with
    | .error fault => tell (faultWords fault) (startStatus fault)
    | .ok (.killed n) => tell (say "terminated by signal " ++ Text.ofNat n) 125
    | .ok (.exited last) =>
      if last = 255 then tell (say "exited with status 255; aborting") 124
      else runBatches s c verbose closed (if last = 0 then status else 123) more

/-- What options say about how words are turned into commands. -/
def batchingOf (options : List Setting) : Batching :=
  let number (k : String) : Nat := ((settingOf? options k).bind digits?).getD 1
  match lastOf options ["n", "L", "l", "I", "i"] with
  | some "n" => .byItems (number "n")
  | some "L" => .byLines (number "L")
  | some "l" => .byLines (number "l")
  | some k =>
    .replacing (((settingOf? options k).filter (· ≠ [])).getD [openBrace, closeBrace])
  | none => .together

/-- Runs a program with words from the input, again and again. -/
def xargs : Start := fun s c =>
  withOptions c "+0a:E:e::i::I:l::L:n:prs:txP:d:" ["null,0", "arg-file=,a", "delimiter=,d", "eof?=,e",
    "replace?=,i", "max-lines?=,l", "max-args=,n", "interactive,p", "no-run-if-empty,r",
    "max-chars=,s", "verbose,t", "exit,x", "max-procs=,P", "open-tty,o", "process-slot-var=",
    "show-limits"] 1 fun options words => do
    let bad := options.findSome? fun (k, t) =>
      if ["n", "L", "l", "P", "s"].contains k && t ≠ [] then
        match digits? t with
        | none => some (say "invalid number \"" ++ t ++ say ("\" for -" ++ k ++ " option"))
        | some n =>
          if n = 0 && k ≠ "P" then
            some (say "value " ++ t ++ say (" for -" ++ k ++ " option should be >= 1"))
          else none
      else none
    let file := settingOf? options "a"
    let input ← match file with
      | some f => pure (contentOf c f)
      | none => do pure (.ok (ofBytes (← Act.receiveAll 0)))
    let batching := batchingOf options
    let whole := match batching with
      | .replacing _ => true
      | _ => false
    let separator : Option Char :=
      match lastOf options ["0", "d"], settingOf? options "d" with
      | some "0", _ => some '\x00'
      | some _, some ('\\' :: t) => some (escapeAt t).1
      | some _, some t => t.head?
      | _, _ => none
    let items (t : Text) : List (Text × Nat) × Option Char :=
      match separator with
      | some d => (((endedPieces d t).zipIdx 0).map fun l =>
          (if l.1.getLast? = some d then l.1.dropLast else l.1, l.2), none)
      | none => itemsOf whole (t.length + 1) ⟨none, none, 0, false⟩ t
    match bad, input.map items with
    | some message, _ => leave c (c.misuse 1 message)
    | none, .error fault =>
      leave c (c.refuse 1 (say "Cannot open input file " ++ c.quote (file.getD []) ++ say ": " ++
        faultWords fault))
    | none, .ok (items, lone) => do
      if whole && isSet options "n" then
        Act.write 2 (c.name ++ say ": warning: options --max-args and --replace/-I/-i are mutually exclusive, ignoring previous --max-args value\n")
      let last := (settingOf? options "E" <|> settingOf? options "e").filter (· ≠ [])
      let (items, lone) : List (Text × Nat) × Option Char := match last with
        | some t =>
          let before := items.takeWhile fun (i : Text × Nat) => i.1 ≠ t
          (before, if before.length = items.length then lone else none)
        | none => (items, lone)
      let command := if words = [] then [say "echo"] else words
      let batches := batching.commands command items
      let batches :=
        if batches = [] && !whole && lone.isNone && !isSet options "r" then [command] else batches
      runBatches s c (isSet options "t") file.isNone 0 batches
      match lone with
      | none => return
      | some q =>
        leave c (c.refuse 1 (say ("unmatched " ++ (if q = '"' then "double" else "single") ++
          " quote; by default quotes are special to xargs unless you use the -0 option")))

end Utility
end Shell
end IconAssets
