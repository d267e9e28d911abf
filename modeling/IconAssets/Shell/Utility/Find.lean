import IconAssets.Shell.Utility.Files
import IconAssets.Shell.Utility.Names
import IconAssets.Shell.Utility.Start

/-!
# Finding files

The objects below some paths are visited one after the other, and an expression of tests and actions
is applied to each.  A test holds or does not; an action does something and mostly holds.  Tests and
actions stand beside each other, so that the next one counts only if the ones before it hold, or are
joined with operators and put into brackets.
-/

namespace IconAssets
namespace Shell
namespace Find

open Pattern (pathOf)

/-- An object that is visited. -/
structure Visit where
  path : Text
  /-- The path at which the search has started. -/
  top : Text
  /-- The number of levels below that path. -/
  depth : Nat
  entry : Utility.Entry
  disk : Volume
  place : Place

namespace Visit

/-- The last name of the path. -/
def name (v : Visit) : Text := Utility.lastName v.path

/-- The path of the folder that the object is in. -/
def folder (v : Visit) : Text :=
  let t := Utility.withoutSlashes v.path
  if '/' ∈ t then (t.reverse.dropWhile (· ≠ '/')).tail.reverse else ['.']

/-- The letter of the kind of the object. -/
def kind (v : Visit) : Char := if v.entry.node.isFile then 'f' else v.entry.letter

/-- Whether it is a folder or a file without anything in it. -/
def isEmpty (v : Visit) : Bool :=
  if v.entry.isFolder then v.disk.children v.place = [] else v.entry.node.isFile && v.entry.size = 0

/-- The time since the last change. -/
def age (v : Visit) : Int := v.disk.clock - v.entry.node.changed

/-- What a letter of a format tells. -/
def part (v : Visit) (letter : Char) : Text :=
  match letter with
  | 'p' => v.path
  | 'f' => v.name
  | 'h' => v.folder
  | 'P' => (v.path.drop v.top.length).dropWhile (· = '/')
  | 'H' => v.top
  | 'd' => Text.ofNat v.depth
  | 's' => Text.ofNat v.entry.size
  | 'k' => Text.ofNat v.entry.blocks
  | 'b' => Text.ofNat (2 * v.entry.blocks)
  | 'n' => Text.ofNat v.entry.links
  | 'm' => Nat.toDigits 8 v.entry.node.rights
  | 'i' => Text.ofNat v.entry.number
  | 'M' => v.entry.rights
  | 'y' | 'Y' => [v.kind]
  | 'u' | 'g' => say "root"
  | 'U' | 'G' => ['0']
  | 'l' => []
  | '%' => ['%']
  | c => ['%', c]

/-- The time of the last change, as a letter tells it; there are ten digits behind the point. -/
def timeText (v : Visit) (letter : Char) : Text :=
  let m := Moment.ofTime v.entry.node.changed
  match letter with
  | '@' => m.text (say "%s.%N0")
  | '+' => m.text (say "%F+%T.%N0")
  | 'S' => m.text (say "%S.%N0")
  | 'T' | 'X' => m.text (say "%T.%N0")
  | 'c' => m.text (say "%a %b %e %T.%N0 %Y")
  | c => m.text ['%', c]

/-- What a directive of a format tells of the object, by its letter and what comes behind. -/
def tell (v : Visit) (letter : Char) (rest : Text) : Text × Text :=
  match letter, rest with
  | 'T', k :: rest | 'A', k :: rest | 'C', k :: rest => (v.timeText k, rest)
  | 't', rest | 'a', rest | 'c', rest => (v.timeText 'c', rest)
  | c, rest => (v.part c, rest)

end Visit

/-- What a search does with an object, or asks about it. -/
inductive Step where
  | test (holds : Visit → Bool)
  | write (text : Visit → Text)
  /-- Runs a command for the object. -/
  | execute (words : List Text)
  /-- Puts the object into a command that is run for many of them, with its number. -/
  | gather (number : Nat) (words : List Text)
  | delete
  /-- Keeps the search from what is below the object. -/
  | prune
  | quit

/-- A word of an expression, with how it is written. -/
inductive Token where
  | step (s : Step)
  | negation (t : Text)
  | binary (t : Text)
  | opening
  | closing

/-- An expression. -/
inductive Expression where
  | step (s : Step)
  | negation (e : Expression)
  | both (e f : Expression)
  | either (e f : Expression)
  /-- Both count, but only what the second one says. -/
  | behind (e f : Expression)

/-- The settings of a search, which do not depend on where they stand. -/
structure Scope where
  least : Nat
  most : Option Nat
  /-- Whether folders come behind what is in them. -/
  folderLast : Bool

/-- What has been read of an expression. -/
structure Reading where
  tokens : List Token
  scope : Scope
  /-- Whether something is done with the objects that the expression holds of. -/
  acts : Bool
  gathered : Nat

/-- What is wrong with the words of an expression. -/
abbrev Read := Except (List Text)

/-- A fault that is told in one line. -/
def fault {α : Type} (message : Text) : Read α := .error [message]

/-- The comparison of a number that a text asks for: with the number in it, or greater or smaller
than that. -/
def comparison? (t : Text) : Option (Nat → Bool) :=
  match t with
  | '+' :: u => (digits? u).map fun n => fun k => n < k
  | '-' :: u => (digits? u).map fun n => fun k => k < n
  | u => (digits? u).map fun n => fun k => k = n

/-- The sizes of units, by their letters. -/
def units : List (Char × Nat) :=
  [('b', 512), ('c', 1), ('w', 2), ('k', 1024), ('M', 1048576), ('G', 1073741824)]

/-- The test of a size. -/
def size (t : Text) : Read Step :=
  let last := t.getLast?.getD '0'
  let number := if last.isDigit then t else t.dropLast
  match if last.isDigit then some 512 else units.lookup last, comparison? number with
  | none, _ => fault (say "invalid -size type \x60" ++ [last, '\''])
  | _, none => fault (say "Invalid argument \x60" ++ t ++ say "' to -size")
  | some unit, some holds => .ok (.test fun v => holds ((v.entry.size + unit - 1) / unit))

/-- The test of a mode. -/
def permissions (quote : Text → Text) (t : Text) : Read Step :=
  let (mode, holds) : Text × (Nat → Nat → Bool) := match t with
    | '-' :: u => (u, fun wanted mode => mode &&& wanted = wanted)
    | '/' :: u => (u, fun wanted mode => wanted = 0 || mode &&& wanted ≠ 0)
    | u => (u, fun wanted mode => mode = wanted)
  match Rights.steps? mode with
  | some steps =>
    let wanted := Rights.applyAll steps false 0 0
    .ok (.test fun v => holds wanted v.entry.node.rights)
  | none => fault (say "invalid mode " ++ quote t)

/-- The test of a kind. -/
def kinds (option t : Text) : Read Step :=
  match t.find? fun c => c ∉ ['b', 'c', 'd', 'p', 'f', 'l', 's', 'D', ','] with
  | some c => fault (say "Unknown argument to " ++ option ++ say ": " ++ [c])
  | none => .ok (.test fun v => v.kind ∈ t)

/-- The tests and actions that stand alone. -/
def plainSteps : List (String × Step) :=
  [("-empty", .test Visit.isEmpty), ("-true", .test fun _ => true), ("-false", .test fun _ => false),
    ("-readable", .test fun _ => true), ("-writable", .test fun _ => true),
    ("-executable", .test fun v => v.entry.isFolder || v.entry.isRunnable),
    ("-nouser", .test fun _ => false), ("-nogroup", .test fun _ => false),
    ("-noleaf", .test fun _ => true), ("-xdev", .test fun _ => true), ("-mount", .test fun _ => true),
    ("-daystart", .test fun _ => true), ("-follow", .test fun _ => true), ("-warn", .test fun _ => true),
    ("-nowarn", .test fun _ => true), ("-prune", .prune), ("-quit", .quit), ("-delete", .delete),
    ("-print", .write fun v => v.path ++ ['\n']), ("-print0", .write fun v => v.path ++ ['\x00'])]

/-- The actions that do something with an object. -/
def doing : List String := ["-delete", "-print", "-print0", "-exec", "-printf"]

/-- The pattern of a text, in which a backslash takes its meaning from the character behind it. -/
def glyphs : Text → Pattern
  | '\\' :: c :: t => ⟨c, true⟩ :: glyphs t
  | c :: t => ⟨c, false⟩ :: glyphs t
  | [] => []

/-- The test of a text by a pattern. -/
def matching (small : Bool) (pattern : Text) (text : Visit → Text) : Step :=
  let fold (t : Text) : Text := if small then t.map Char.toLower else t
  let p := glyphs (fold pattern)
  .test fun v => Pattern.matchesText p (fold (text v))

/-- The number of nanoseconds of a minute. -/
def minuteLength : Int := 60000000000

/-- The number of nanoseconds of a day. -/
def dayLength : Int := 86400000000000

/-- The test or the action of an option with a value. -/
def valued (c : Call) (option : String) (t : Text) : Read Step :=
  let name := option.toList
  let invalid : Read Step :=
    fault (say "invalid argument \x60" ++ t ++ say "' to \x60" ++ name ++ ['\''])
  let count (number : Visit → Nat) : Read Step :=
    match comparison? t with
    | some holds => .ok (.test fun v => holds (number v))
    | none => invalid
  match option with
  | "-name" => .ok (matching false t Visit.name)
  | "-iname" => .ok (matching true t Visit.name)
  | "-path" | "-wholename" => .ok (matching false t Visit.path)
  | "-ipath" | "-iwholename" => .ok (matching true t Visit.path)
  | "-type" | "-xtype" => kinds name t
  | "-size" => size t
  | "-perm" => permissions c.quote t
  | "-printf" => .ok (.write fun v => Utility.statText (fun _ => v.tell) true (t.length + 1) t)
  | "-links" => count (·.entry.links)
  | "-inum" => count (·.entry.number)
  | "-mtime" | "-atime" | "-ctime" => count fun v => (v.age / dayLength).toNat
  | "-mmin" | "-amin" | "-cmin" =>
    match (comparison? t).isSome, digits? (t.dropWhile fun c => c = '+' || c = '-') with
    | true, some n =>
      let limit : Int := n * minuteLength
      .ok (.test fun v =>
        if t.head? = some '+' then limit < v.age
        else if t.head? = some '-' then v.age < limit
        else limit - minuteLength ≤ v.age && v.age < limit)
    | _, _ => invalid
  | "-user" | "-group" =>
    if t = say "root" || t = ['0'] then .ok (.test fun _ => true)
    else if t = say "nobody" || (digits? t).isSome then .ok (.test fun _ => false)
    else fault (c.quote t ++ say (" is not the name of " ++ if option = "-user" then "a known user"
      else "an existing group"))
  | "-uid" | "-gid" =>
    match comparison? t with
    | some holds => .ok (.test fun _ => holds 0)
    | none => invalid
  | "-newer" | "-anewer" | "-cnewer" | "-newermm" | "-neweram" | "-newercm" | "-neweraa" | "-newercc" =>
    match c.disk.resolve (pathOf t) with
    | .ok p =>
      let time := ((c.disk.lookup p).map (·.changed)).getD 0
      .ok (.test fun v => time < v.entry.node.changed)
    | .error f => fault (c.quote t ++ say ": " ++ faultWords f)
  | "-newermt" | "-newerat" | "-newerct" =>
    match (Moment.ofTime c.disk.clock).timeOf? t with
    | some time => .ok (.test fun v => time < v.entry.node.changed)
    | none => fault (say "I cannot figure out how to interpret " ++ c.quote t ++
        say " as a date or time")
  | "-samefile" =>
    match c.disk.resolve (pathOf t) with
    | .ok p => .ok (.test fun v => some v.entry.number = c.disk.number? p)
    | .error f => fault (c.quote t ++ say ": " ++ faultWords f)
  | _ => .ok (.test fun _ => false)

/-- The options with a value. -/
def valuedOptions : List String :=
  ["-name", "-iname", "-path", "-wholename", "-ipath", "-iwholename", "-type", "-xtype", "-size", "-perm",
    "-printf", "-links", "-mtime", "-atime", "-ctime", "-mmin", "-amin", "-cmin", "-user", "-group",
    "-uid", "-gid", "-newer", "-anewer", "-cnewer", "-newermm",
    "-neweram", "-newercm", "-neweraa", "-newercc", "-newermt", "-newerat", "-newerct", "-samefile", "-fstype", "-lname", "-ilname", "-inum",
    "-used"]

/-- The words that join tests. -/
def binaryWords : List String := ["-o", "-or", "-a", "-and", ","]

/-- The mark that stands for an object in a command. -/
def objectMark : Text := [openBrace, closeBrace]

/-- The command behind an option, and the words behind the command. -/
def command (c : Call) (r : Reading) (rest : List Text) : Read (Reading × List Text) :=
  let lacking : Read (Reading × List Text) := fault (say "missing argument to \x60-exec'")
  let holdsMark (w : Text) : Bool := Text.replaceAll objectMark [] w ≠ w
  let isEnd (w : Text × Text) : Bool := w.2 = [';'] || (w.2 = ['+'] && holdsMark w.1)
  match ((([] : Text) :: rest).zip rest).findIdx? isEnd with
  | none => lacking
  | some i =>
    let words := rest.take i
    let behind := rest.drop (i + 1)
    if words = [] then lacking
    else if rest[i]? = some [';'] then
      .ok ({ r with tokens := r.tokens ++ [.step (.execute words)], acts := true }, behind)
    else
      match words.filter holdsMark with
      | _ :: _ :: _ => fault (say "Only one instance of \x7b\x7d is supported with -exec ... +")
      | marked =>
        let last := marked.headD []
        if last ≠ objectMark then
          fault (say "In " ++ c.quote (say "-exec ... \x7b\x7d +") ++ say " the " ++ c.quote objectMark ++
            say " must appear by itself, but you specified " ++ c.quote last)
        else
          .ok ({ r with tokens := r.tokens ++ [.step (.gather r.gathered words.dropLast)], acts := true,
                        gathered := r.gathered + 1 }, behind)

/-- Reads an option; the words behind it are given and what is left of them comes back. -/
def option (c : Call) (r : Reading) (t : Text) (rest : List Text) : Read (Reading × List Text) :=
  let s := String.ofList t
  let add (token : Token) : Reading :=
    { r with tokens := r.tokens ++ [token], acts := r.acts || doing.contains s }
  let lacking : Read (Reading × List Text) := fault (say "missing argument to \x60" ++ t ++ ['\''])
  let always : Token := .step (.test fun _ => true)
  if s = "(" then .ok (add .opening, rest)
  else if s = ")" then .ok (add .closing, rest)
  else if s = "!" || s = "-not" then .ok (add (.negation t), rest)
  else if binaryWords.contains s then .ok (add (.binary t), rest)
  else if s = "-exec" then command c r rest
  else if s = "-depth" || s = "-d" then
    let r := add always
    .ok ({ r with scope := { r.scope with folderLast := true } }, rest)
  else if s = "-maxdepth" || s = "-mindepth" then
    match rest with
    | [] => lacking
    | u :: rest =>
      match digits? u with
      | none => fault (say "Expected a positive decimal integer argument to " ++ t ++ say ", but got " ++ c.quote u)
      | some n =>
        let r := add always
        .ok ({ r with scope :=
          if s = "-maxdepth" then { r.scope with most := some n } else { r.scope with least := n } }, rest)
  else
    match plainSteps.lookup s with
    | some step =>
      let r := add (.step step)
      .ok ({ r with scope := { r.scope with folderLast := r.scope.folderLast || s = "-delete" } }, rest)
    | none =>
      if valuedOptions.contains s then
        match rest with
        | [] => lacking
        | u :: rest => (valued c s u).map fun step => (add (.step step), rest)
      else fault (say "unknown predicate \x60" ++ t ++ ['\''])

/-- Whether a word belongs to an expression; at its start, some words do not. -/
def isExpression (first : Bool) (t : Text) : Bool :=
  match t with
  | '-' :: _ :: _ => true
  | [c] => c = '(' || c = '!' || (!first && (c = ')' || c = ','))
  | _ => false

/-- Reads the words of an expression; the last option that has been read is given. -/
def tokens (c : Call) : Nat → Text → Reading → List Text → Read Reading
  | 0, _, r, _ => .ok r
  | _ + 1, _, r, [] => .ok r
  | fuel + 1, last, r, t :: rest =>
    if isExpression false t then do
      let (r, rest) ← option c r t rest
      tokens c fuel t r rest
    else
      .error ((say "paths must precede expression: \x60" ++ t ++ ['\'']) ::
        if c.disk.hasObject (pathOf t) then
          [say "possible unquoted pattern after predicate \x60" ++ last ++ say "'?"]
        else [])

mutual

/-- Reads an operand; the token before it is given. -/
def operand : Nat → Option Token → List Token → Read (Expression × List Token)
  | 0, _, _ => fault []
  | fuel + 1, before, ts =>
    match ts with
    | .step s :: rest => .ok (.step s, rest)
    | .negation t :: rest => (operand fuel (some (.negation t)) rest).map fun r => (.negation r.1, r.2)
    | .opening :: rest =>
      match rest with
      | [] => fault (say "invalid expression; expected to find a ')' but didn't see one. Perhaps you need an extra predicate after '('")
      | .closing :: _ => fault (say "invalid expression; empty parentheses are not allowed.")
      | _ => do
        let (e, rest) ← operators fuel 0 (some .opening) rest
        match rest with
        | .closing :: rest => return (e, rest)
        | _ => fault (say "invalid expression; I was expecting to find a ')' somewhere but did not see one.")
    | .binary t :: _ =>
      fault (say "invalid expression; you have used a binary operator '" ++ t ++ say "' with nothing before it.")
    | .closing :: _ =>
      match before with
      | some (.negation t) | some (.binary t) => fault (say "expected an expression between '" ++ t ++ say "' and ')'")
      | _ => fault (say "invalid expression; you have too many ')'")
    | [] =>
      match before with
      | some (.negation t) | some (.binary t) => fault (say "expected an expression after '" ++ t ++ ['\''])
      | _ => fault []

/-- Reads operands and the operators of a level, or of those that bind more tightly. -/
def operators : Nat → Nat → Option Token → List Token → Read (Expression × List Token)
  | 0, _, _, _ => fault []
  | fuel + 1, level, before, ts => do
    if 3 ≤ level then operand fuel before ts
    else
      let (e, rest) ← operators fuel (level + 1) before ts
      more fuel level e rest

/-- Reads the operators of a level and their second operands. -/
def more : Nat → Nat → Expression → List Token → Read (Expression × List Token)
  | 0, _, e, ts => .ok (e, ts)
  | fuel + 1, level, e, ts => do
    let join (f : Expression) : Expression :=
      if level = 0 then .behind e f else if level = 1 then .either e f else .both e f
    let wanted := [[","], ["-o", "-or"], ["-a", "-and"]].getD level []
    match ts with
    | .binary t :: rest =>
      if wanted.contains (String.ofList t) then
        let (f, rest) ← operators fuel (level + 1) (some (.binary t)) rest
        more fuel level (join f) rest
      else return (e, ts)
    | .closing :: _ | [] => return (e, ts)
    | _ =>
      if level = 2 then
        let (f, rest) ← operators fuel (level + 1) none ts
        more fuel level (join f) rest
      else return (e, ts)

end

/-- The expression that some tokens make. -/
def expression (ts : List Token) : Read Expression := do
  if ts.isEmpty then return .step (.test fun _ => true)
  let (e, rest) ← operators (5 * (ts.length + 1)) 0 none ts
  if rest.isEmpty then return e else fault (say "you have too many ')'")

/-- How far a search has come. -/
structure Progress where
  /-- The objects that have been put into commands, each with the number and the words of the command,
  the last one first. -/
  gathered : List (Nat × List Text × Text)
  pruned : Bool
  ended : Bool
  failed : Bool

/-- A search that is going on. -/
abbrev Walk := StateT Progress Act

/-- Complains. -/
def complain (c : Call) (message : Text) : Walk Unit := do
  Act.write 2 (c.name ++ say ": " ++ message ++ ['\n'])
  modify fun p => { p with failed := true }

/-- Runs a command and tells whether it has succeeded. -/
def run (s : Starter) (c : Call) (words : List Text) : Walk Bool := do
  let failed := (← get).failed
  let start : Act (Except Disk.Fault Ending) := s.start c.vars words
  match ← start with
  | .ok (.exited n) => return n = 0
  | .ok (.killed n) =>
    complain c (c.quote (words.headD []) ++ say " terminated by signal " ++ Text.ofNat n)
    modify fun p => { p with failed := failed }
    return false
  | .error f =>
    complain c (c.quote (words.headD []) ++ say ": " ++ faultWords f)
    modify fun p => { p with failed := failed }
    return false

/-- Deletes an object. -/
def remove (c : Call) (v : Visit) : Walk Bool := do
  if v.path = ['.'] then return true
  let disk := (← getThe State).disk
  if v.entry.isFolder && disk.children v.place ≠ [] then
    complain c (say "cannot delete " ++ c.quote v.path ++ say ": Directory not empty")
    return false
  else
    modifyThe State fun s => s.withDisk (s.disk.clear v.place)
    return true

/-- Does a step. -/
def Step.apply (s : Starter) (c : Call) (v : Visit) : Step → Walk Bool
  | .test holds => return holds v
  | .write text => do
    Act.write 1 (text v)
    return true
  | .execute words => run s c (words.map fun w => Text.replaceAll objectMark v.path w)
  | .gather number words => do
    modify fun p => { p with gathered := (number, words, v.path) :: p.gathered }
    return true
  | .delete => remove c v
  | .prune => do
    modify fun p => { p with pruned := true }
    return true
  | .quit => do
    modify fun p => { p with ended := true }
    return true

/-- Applies an expression to an object; nothing is done any more once the search has ended. -/
def Expression.apply (s : Starter) (c : Call) (v : Visit) : Expression → Walk Bool
  | .step x => do
    if (← get).ended then return false else x.apply s c v
  | .negation e => do return !(← e.apply s c v)
  | .both e f => do
    if ← e.apply s c v then f.apply s c v else return false
  | .either e f => do
    if ← e.apply s c v then return true else f.apply s c v
  | .behind e f => do
    let _ ← e.apply s c v
    f.apply s c v

/-- Visits an object and what is below it, down to a number of levels. -/
def visit (s : Starter) (c : Call) (scope : Scope) (e : Expression) (top : Text) :
    Nat → Text → Nat → Walk Unit
  | 0, _, _ => return
  | levels + 1, path, depth => do
    if (← get).ended then return
    let disk := (← getThe State).disk
    match disk.resolve (pathOf path) with
    | .error f => complain c (c.quote path ++ say ": " ++ faultWords f)
    | .ok place =>
      match Utility.Entry.at? disk place path with
      | none => return
      | some entry =>
        let v : Visit := ⟨path, top, depth, entry, disk, place⟩
        modify fun p => { p with pruned := false }
        let look : Walk Unit := if scope.least ≤ depth then discard (e.apply s c v) else return
        if !scope.folderLast then look
        let deeper := scope.most.all fun n => depth < n
        if entry.isFolder && deeper && !(← get).pruned then
          let now := (← getThe State).disk
          if now.isFolder (pathOf path) then
            for name in now.children place do
              visit s c scope e top levels (Utility.inside path (ofText name)) (depth + 1)
          else if !(← get).ended then complain c (c.quote path ++ say ": " ++ faultWords .missing)
        if scope.folderLast then look

/-- Runs the commands that objects have been gathered for. -/
def runGathered (s : Starter) (c : Call) (count : Nat) : Walk Unit := do
  let all := (← get).gathered.reverse
  for number in List.range count do
    let mine := all.filter fun g => g.1 = number
    match mine with
    | [] => pure ()
    | (_, words, _) :: _ =>
      if !(← run s c (words ++ mine.map fun g => g.2.2)) then
        modify fun p => { p with failed := true }

end Find

namespace Utility

/-- Looks for files below some folders. -/
def find : Start := fun s c => do
  let front := c.arguments.takeWhile fun a =>
    a = say "-H" || a = say "-L" || a = say "-P" || (say "-O").isPrefixOf a
  let args := c.arguments.drop front.length
  let args := if args.head? = some ['-', '-'] then args.drop 1 else args
  let tops := args.takeWhile fun a => !Find.isExpression true a
  let read : Find.Read (Find.Reading × Find.Expression) := do
    let words := args.drop tops.length
    let r ← Find.tokens c (words.length + 1) [] ⟨[], ⟨0, none, false⟩, false, 0⟩ words
    let e ← Find.expression r.tokens
    return (r, if r.acts then e else .both e (.step (.write fun v => v.path ++ ['\n'])))
  match read with
  | .error messages =>
    leave c ⟨c.disk, messages.map fun m => (true, c.name ++ say ": " ++ m ++ ['\n']), 1, none, false⟩
  | .ok (r, e) =>
    let all : Find.Walk Unit := do
      for top in (if tops = [] then [['.']] else tops) do
        Find.visit s c r.scope e top (c.disk.height + 100) top 0
      Find.runGathered s c r.gathered
    let (_, p) ← all.run ⟨[], false, false, false⟩
    Act.setStatus (if p.failed then 1 else 0)

end Utility

end Shell
end IconAssets
