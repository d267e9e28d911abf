import IconAssets.Shell.Edit.Reader
import IconAssets.Shell.Utility.Listing

/-!
# Running editing scripts

A cycle reads a line into the pattern space, runs the commands of the script and writes the space.
What is to be put behind a line is held back until the next line is read.  Lines that lack an end get
it as soon as something else is written behind them.
-/

namespace IconAssets
namespace Shell
namespace Edit

open Pattern (pathOf)

/-- Where something is written. -/
inductive Sink where
  /-- The output, or the file that is edited in its place. -/
  | standard
  | output
  | errors
  | file (name : Text)
  deriving DecidableEq

/-- What is put behind a line. -/
inductive Queued where
  | text (t : Text)
  | file (name : Text)

/-- Whether a range of lines has begun, and the line where it stops if that is known. -/
inductive RangeState where
  | inactive
  | active (stop : Option Nat)

/-- A file that is edited in its place: its name, and what has been written, the last piece first. -/
structure Edited where
  name : Text
  pieces : List Text

/-- The state of a run. -/
structure Session where
  disk : Volume
  utf8 : Bool
  silent : Bool
  /-- Whether each file has lines of its own. -/
  separate : Bool
  /-- What is added to the names of files that are edited in their places, if they are. -/
  suffix : Option Text
  /-- The character at the end of a line. -/
  ending : Char
  width : Nat
  program : Text
  /-- What is written, the last piece first. -/
  written : List (Bool × Text)
  edited : Option Edited
  files : List Text
  name : Text
  lines : List Text
  input : Text
  number : Nat
  pattern : Text
  ended : Bool
  hold : Text
  holdEnded : Bool
  queue : List Queued
  replaced : Bool
  ranges : Array RangeState
  sought : Option Regex
  /-- Where the last line that was written lacks its end. -/
  unended : List Sink
  /-- The files that are read line by line, with the lines that are left. -/
  readers : List (Text × List Text)
  failed : Bool
  stopped : Option Nat

namespace Session

/-- The sink of a name. -/
def sinkOf (s : Session) (name : Text) : Sink :=
  if name = "/dev/stdout".toList then (if s.suffix.isSome then .output else .standard)
  else if name = "/dev/stderr".toList then .errors
  else .file name

/-- Writes a text as it is. -/
def raw (s : Session) (sink : Sink) (t : Text) : Session :=
  if t = [] then s
  else
    match sink with
    | .standard =>
      match s.edited with
      | some e => { s with edited := some { e with pieces := t :: e.pieces } }
      | none => { s with written := (false, t) :: s.written }
    | .output => { s with written := (false, t) :: s.written }
    | .errors => { s with written := (true, t) :: s.written }
    | .file name =>
      let old := ((s.disk.readFile (pathOf name)).toOption).getD []
      match s.disk.writeFile (pathOf name) (old ++ toBytes t) with
      | .ok d => { s with disk := d }
      | .error _ => s

/-- Ends the last line of a sink if it lacks its end. -/
def complete (s : Session) (sink : Sink) : Session :=
  if sink ∈ s.unended then
    { s with unended := s.unended.filter (· ≠ sink) }.raw sink [s.ending]
  else s

/-- Writes a text on a line of its own. -/
def write (s : Session) (sink : Sink) (t : Text) (ended : Bool) : Session :=
  let s := (s.complete sink).raw sink (if ended then t ++ [s.ending] else t)
  if ended then s else { s with unended := sink :: s.unended }

/-- Complains. -/
def complain (s : Session) (message : Text) : Session :=
  s.raw .errors (s.program ++ say ": " ++ message ++ ['\n'])

/-- Complains and stops. -/
def stop (s : Session) (status : Nat) (message : Text) : Session :=
  { s.complain message with stopped := some status }

/-- The content of a file. -/
def content (s : Session) (name : Text) : Except Disk.Fault Text :=
  if Utility.isInput name then .ok s.input
  else (s.disk.readFile (pathOf name)).map ofBytes

/-- Whether a line comes after this one. -/
def hasMore (s : Session) : Bool :=
  !s.lines.isEmpty || (!s.separate && s.files.any fun f =>
    match s.content f with
    | .ok t => t ≠ []
    | .error _ => false)

/-- The name of the file that keeps what has been there before. -/
def backupName (name suffix : Text) : Text :=
  let base := (Text.pieces '/' name).getLast?.getD []
  let folder := name.take (name.length - base.length)
  let backup := if '*' ∈ suffix then suffix.flatMap fun c => if c = '*' then base else [c]
    else base ++ suffix
  if '/' ∈ backup then backup else folder ++ backup

/-- Puts the file that has been edited in its place. -/
def closeEdited (s : Session) : Session :=
  match s.edited with
  | none => s
  | some e =>
    let path := pathOf e.name
    let data := toBytes e.pieces.reverse.flatten
    let disk := match s.disk.resolve path with
      | .error _ => s.disk
      | .ok place =>
        let rights := ((s.disk.lookup place).map (·.rights)).getD Volume.usualRights
        let without := match s.suffix with
          | none | some [] => s.disk.clear place
          | some suffix =>
            match s.disk.locate (pathOf (backupName e.name suffix)) with
            | .ok ⟨folder, some name, _⟩ => s.disk.move place (folder ++ [name])
            | _ => s.disk.clear place
        match without.create path rights with
        | .error _ => without
        | .ok (d, k) => (d.setRights k rights).setData k data
    { s with
      disk
      edited := none
      unended := s.unended.filter (· ≠ .standard) }

/-- Opens the next file that holds a line. -/
def openNext (s : Session) : List Text → Session
  | [] => { s with files := [] }
  | f :: files =>
    let s := { s.closeEdited with files := files }
    let isFolder := s.disk.isFolder (pathOf f) && !Utility.isInput f
    match s.content f with
    | .error fault =>
      if s.suffix.isSome && fault ≠ .missing then
        s.stop 4 (say "couldn't edit " ++ f ++ say ": not a regular file")
      else if isFolder then
        s.stop 4 (say "read error on " ++ f ++ say ": Is a directory")
      else
        openNext { s.complain (say "can't read " ++ f ++ say ": " ++ faultWords fault) with
          failed := true } files
    | .ok t =>
      let s : Session := { s with
        name := f
        lines := Utility.endedPieces s.ending t
        input := if Utility.isInput f then [] else s.input
        edited := if s.suffix.isSome then some ⟨f, []⟩ else none
        number := if s.separate then 0 else s.number
        ranges := if s.separate then s.ranges.map fun _ => .inactive else s.ranges
        readers := if s.separate then [] else s.readers }
      if t = [] then openNext s files else s

/-- Writes what has been held back. -/
def flush (s : Session) : Session :=
  let step (s : Session) (q : Queued) : Session :=
    match q with
    | .text t => (s.complete .standard).raw .standard t
    | .file f =>
      match s.content f with
      | .ok t =>
        let s := if t = [] then s else (s.complete .standard).raw .standard t
        if Utility.isInput f then { s with input := [] } else s
      | .error .isFolder => s.stop 4 (say "read error on " ++ f ++ say ": Is a directory")
      | .error _ => s
  s.queue.foldl step { s with queue := [] }

/-- The next line without its end, and whether it has one. -/
def readLine (s : Session) : Session × Option (Text × Bool) :=
  let s := s.flush
  let s := if s.lines.isEmpty && s.stopped.isNone then s.openNext s.files else s
  match s.lines, s.stopped with
  | l :: rest, none =>
    let ended := l.getLast? = some s.ending
    ({ s with lines := rest, number := s.number + 1, replaced := false },
      some (if ended then l.dropLast else l, ended))
  | _, _ => (s, none)

/-- The units of the pattern space. -/
def units (s : Session) : Array Spelled := (Regex.units s.utf8 s.pattern).toArray

/-- The expression to look for, which is the last one if none is given. -/
def seek (s : Session) (r : Option Regex) : Session × Option Regex :=
  match r <|> s.sought with
  | some r => ({ s with sought := some r }, some r)
  | none => (s.stop 1 (say "-e expression #1, char 0: no previous regular expression"), none)

/-- Whether the line has an address. -/
def holds (s : Session) (a : Address) : Session × Bool :=
  match a with
  | .line n => (s, s.number = n)
  | .step first every => (s, first ≤ s.number && (s.number - first) % every = 0)
  | .last => (s, !s.hasMore)
  | .found r =>
    match s.seek r with
    | (s, some r) => (s, r.isFoundIn s.units)
    | (s, none) => (s, false)

/-- The state of a range that starts at this line. -/
def begin (s : Session) (e : RangeEnd) : RangeState :=
  let upTo (n : Nat) : RangeState := if n ≤ s.number then .inactive else .active (some n)
  match e with
  | .address (.line n) => upTo n
  | .lines n => upTo (s.number + n)
  | .multiple n => if n = 0 then .inactive else upTo (s.number / n * n + n)
  | .address _ => .active none

/-- Whether the line lies in a range, whose first line is not asked for; and the state of the range
behind it. -/
def goesOn (s : Session) (e : RangeEnd) (stop : Option Nat) : Session × Bool × RangeState :=
  match stop, e with
  | some n, _ => (s, s.number ≤ n, if n ≤ s.number then .inactive else .active stop)
  | none, .address a =>
    let (s, found) := s.holds a
    (s, true, if found then .inactive else .active none)
  | none, _ => (s, true, .inactive)

/-- Whether the line has the first address of a range, and the state of the range behind it. -/
def startsRange (s : Session) (a : Address) (e : RangeEnd) : Session × Bool × RangeState :=
  let (s, found) := s.holds a
  (s, found, if found then s.begin e else .inactive)

/-- Whether the command at a place is for this line. -/
def selects (s : Session) (place : Nat) (sel : Selector) : Session × Bool :=
  match sel.first, sel.last with
  | none, _ => (s, !sel.negated)
  | some a, none =>
    let (s, found) := s.holds a
    (s, found ≠ sel.negated)
  | some a, some e =>
    let state := s.ranges[place]?.getD .inactive
    let (s, found, state) : Session × Bool × RangeState :=
      match state, a with
      | .active stop, _ => s.goesOn e stop
      | .inactive, .line 0 => if s.number = 1 then s.goesOn e none else (s, false, .inactive)
      | .inactive, a => s.startsRange a e
    ({ s with ranges := s.ranges.setIfInBounds place state }, found ≠ sel.negated)

/-- Whether the range of the command at a place goes on behind this line. -/
def isInRange (s : Session) (place : Nat) : Bool :=
  match s.ranges[place]? with
  | some (.active _) => true
  | _ => false

/-- A unit with its case changed. -/
def recased (m : CaseChange) (u : Spelled) : Text :=
  match m, u.char with
  | .keep, _ | _, none => u.octets
  | .upper, some c => if u.octets.length = 1 then u.octets.map Char.toUpper else ofText [Regex.raised c]
  | .lower, some c => if u.octets.length = 1 then u.octets.map Char.toLower else ofText [Regex.lowered c]

/-- What stands in the place of a match. -/
def replacement (utf8 : Bool) (units : Array Spelled) (start : Nat) (m : Regex.Found)
    (pieces : List Piece) : Text :=
  let part (a b : Nat) : List Spelled := (units.extract a b).toList
  let emit (state : Text × CaseChange × CaseChange) (us : List Spelled) :
      Text × CaseChange × CaseChange :=
    us.foldl (fun (out, all, next) u =>
      (out ++ recased (if next = .keep then all else next) u, all, .keep)) state
  let step (state : Text × CaseChange × CaseChange) (p : Piece) : Text × CaseChange × CaseChange :=
    match p with
    | .char c => emit state (Regex.units false [c])
    | .group 0 => emit state (part start m.stop)
    | .group n =>
      match m.groups.lookup n with
      | some (a, b) => emit state (part a b)
      | none => state
    | .casing m => (state.1, m, .keep)
    | .nextCasing m => (state.1, state.2.1, m)
  if utf8 && pieces.any (fun p =>
      match p with
      | .casing _ | .nextCasing _ => true
      | _ => false) then
    (groupChars pieces).foldl (fun state p =>
      match p with
      | .inl t => emit state (Regex.units true t)
      | .inr p => step state p) (([], .keep, .keep) : Text × CaseChange × CaseChange) |>.1
  else (pieces.foldl step ([], .keep, .keep)).1
where
  /-- The pieces with characters that follow each other put together. -/
  groupChars (pieces : List Piece) : List (Text ⊕ Piece) :=
    pieces.foldr (fun p rest =>
      match p, rest with
      | .char c, .inl t :: rest => .inl (c :: t) :: rest
      | .char c, rest => .inl [c] :: rest
      | p, rest => .inr p :: rest) []

/-- Replaces matches from a place on; `last` is where the last match has stopped, and `count` the
number of matches so far.  The answer is the text, if anything has been replaced; each call takes a
match or a unit. -/
def replaceFrom (utf8 : Bool) (r : Regex) (sub : Substitution) (units : Array Spelled) :
    Nat → Nat → Option Nat → Nat → Text → Bool → Text × Bool
  | 0, _, _, _, done, changed => (done, changed)
  | fuel + 1, start, last, count, done, changed =>
    let part (a b : Nat) : Text := Regex.octetsOf (units.extract a b).toList
    match r.search? units start with
    | none => (done ++ part start units.size, changed)
    | some (place, m) =>
      let done := done ++ part start place
      let skipped (done : Text) (count : Nat) (changed : Bool) : Text × Bool :=
        if units.size ≤ place then (done, changed)
        else
          replaceFrom utf8 r sub units fuel (place + 1) none count (done ++ part place (place + 1))
            changed
      if m.stop = place && last = some place then skipped done count changed
      else
        let count := count + 1
        let replaces := sub.number ≤ count
        let done := done ++ if replaces then replacement utf8 units place m sub.pieces
          else part place m.stop
        if replaces && !sub.isGlobal then (done ++ part m.stop units.size, true)
        else if m.stop = place then skipped done count (changed || replaces)
        else replaceFrom utf8 r sub units fuel m.stop (some m.stop) count done (changed || replaces)

/-- Substitutes text in the pattern space. -/
def substitute (s : Session) (sub : Substitution) : Session :=
  match s.seek sub.regex with
  | (s, none) => s
  | (s, some r) =>
    let units := s.units
    let (t, changed) := replaceFrom s.utf8 r sub units (units.size + 2) 0 none 0 [] false
    if !changed then s
    else
      let s := { s with pattern := t, replaced := true }
      let s := if sub.prints then s.write .standard s.pattern s.ended else s
      match sub.file with
      | some f => s.write (s.sinkOf f) s.pattern s.ended
      | none => s

/-- A character as it is written so that it can be seen. -/
def visible (c : Char) : Text :=
  if c = '\\' then ['\\', '\\']
  else
    match controlLetter? c with
    | some letter => ['\\', letter]
    | none => if ' ' ≤ c && c ≤ '~' then [c] else octalEscape [c]

/-- The pattern space with all its characters to be seen, on lines of a width. -/
def listing (s : Session) (width : Nat) : Text :=
  (s.pattern.foldl (fun (out, column) c =>
    let shown := visible c
    if 0 < width && width - 1 < column + shown.length then (out ++ ['\\', '\n'] ++ shown, shown.length)
    else (out ++ shown, column + shown.length)) (([], 0) : Text × Nat)).1 ++ ['$', '\n']

/-- The first line of the pattern space. -/
def firstLine (s : Session) : Text := s.pattern.takeWhile (· ≠ s.ending)

/-- Writes the pattern space unless lines are only written when a command says so. -/
def autoprint (s : Session) : Session :=
  if s.silent then s else s.write .standard s.pattern s.ended

/-- The next line of a file that is read line by line. -/
def takeLine (s : Session) (file : Text) : Session × Option Text :=
  let lines := (s.readers.lookup file).getD
    (match s.content file with
      | .ok t => Utility.endedPieces s.ending t
      | .error _ => [])
  let others := s.readers.filter (·.1 ≠ file)
  ({ s with readers := (file, lines.tail) :: others }, lines.head?)

end Session

/-- How a run goes on. -/
inductive Flow where
  | goto (place : Nat)
  /-- The cycle ends, and the next one starts with another line. -/
  | cycle
  /-- The cycle starts again with what is in the pattern space. -/
  | again
  | stop (status : Nat)

/-- Does what a command says for the line; `place` is where it stands in the script. -/
def perform (script : Script) (place : Nat) (a : Action) (s : Session) : Session × Flow :=
  let on (s : Session) : Session × Flow := (s, .goto (place + 1))
  match a with
  | .block _ | .nothing => on s
  | .number => on ((s.complete .standard).raw .standard (Text.ofNat s.number ++ ['\n']))
  | .fileName => on ((s.complete .standard).raw .standard (s.name ++ ['\n']))
  | .append t => on { s with queue := s.queue ++ [.text t] }
  | .insert t => on ((s.complete .standard).raw .standard t)
  | .change t =>
    (if s.isInRange place then s else (s.complete .standard).raw .standard t, .cycle)
  | .jump when_ label =>
    let takes := match when_ with
      | .always => true
      | .replaced => s.replaced
      | .notReplaced => !s.replaced
    let target := if label = [] then script.commands.size
      else (script.labels.lookup label).getD script.commands.size
    let s := if when_ = .always then s else { s with replaced := false }
    if takes then (s, .goto target) else on s
  | .delete => (s, .cycle)
  | .deleteFirst =>
    if s.ending ∈ s.pattern then
      ({ s with pattern := s.pattern.drop (s.firstLine.length + 1) }, .again)
    else (s, .cycle)
  | .get => on { s with pattern := s.hold, ended := s.holdEnded }
  | .getAppend => on { s with pattern := s.pattern ++ s.ending :: s.hold }
  | .hold => on { s with hold := s.pattern, holdEnded := s.ended }
  | .holdAppend => on { s with hold := s.hold ++ s.ending :: s.pattern }
  | .exchange =>
    on { s with pattern := s.hold, hold := s.pattern, ended := s.holdEnded, holdEnded := s.ended }
  | .clear => on { s with pattern := [] }
  | .list width => on ((s.complete .standard).raw .standard (s.listing (width.getD s.width)))
  | .next =>
    let s := s.autoprint
    if s.hasMore then
      match s.readLine with
      | (s, some (l, ended)) => on { s with pattern := l, ended }
      | (s, none) => (s, .cycle)
    else (s, .cycle)
  | .nextAppend =>
    if s.hasMore then
      match s.readLine with
      | (s, some (l, ended)) => on { s with pattern := s.pattern ++ s.ending :: l, ended }
      | (s, none) => (s, .cycle)
    else (s.autoprint, .cycle)
  | .print => on (s.write .standard s.pattern s.ended)
  | .printFirst => on (s.write .standard s.firstLine true)
  | .quit status silently =>
    if silently then (s, .stop status) else (s.autoprint.flush, .stop status)
  | .readFile f => on { s with queue := s.queue ++ [.file f] }
  | .readLine f =>
    match s.takeLine f with
    | (s, some l) =>
      let l := if l.getLast? = some s.ending then l else l ++ [s.ending]
      on { s with queue := s.queue ++ [.text l] }
    | (s, none) => on s
  | .substitute sub => on (s.substitute sub)
  | .translate pairs =>
    let changed (u : Spelled) : Text :=
      match pairs.find? fun p => p.1.octets = u.octets with
      | some p => p.2.octets
      | none => u.octets
    on { s with pattern := (Regex.units s.utf8 s.pattern).flatMap changed }
  | .write f => on (s.write (s.sinkOf f) s.pattern s.ended)
  | .writeFirst f => on (s.write (s.sinkOf f) s.firstLine true)

/-- Starts a cycle with another line, if there is one. -/
def nextCycle (s : Session) : Session × Option Nat :=
  match s.readLine with
  | (s, some (l, ended)) => ({ s with pattern := l, ended }, some 0)
  | (s, none) => (s, none)

/-- Runs a script from a place on; each call runs a command or ends a cycle. -/
def runFrom (script : Script) : Nat → Nat → Session → Session
  | 0, _, s => s
  | fuel + 1, place, s =>
    if s.stopped.isSome then s
    else
      match script.commands[place]? with
      | none =>
        match nextCycle s.autoprint with
        | (s, some place) => runFrom script fuel place s
        | (s, none) => s
      | some c =>
        let (s, selected) := s.selects place c.selector
        if !selected then
          match c.action with
          | .block stop => runFrom script fuel stop s
          | _ => runFrom script fuel (place + 1) s
        else
          match perform script place c.action s with
          | (s, .goto place) => runFrom script fuel place s
          | (s, .cycle) =>
            match nextCycle s with
            | (s, some place) => runFrom script fuel place s
            | (s, none) => s
          | (s, .again) => runFrom script fuel 0 s.flush
          | (s, .stop status) => { s with stopped := s.stopped <|> some status }

/-- The most steps of a run. -/
def mostSteps : Nat := 4000000

/-- Runs a script on all lines. -/
def run (script : Script) (s : Session) : Session :=
  match nextCycle s with
  | (s, some place) => (runFrom script mostSteps place s).flush.closeEdited
  | (s, none) => s.closeEdited

end Edit
end Shell
end IconAssets
