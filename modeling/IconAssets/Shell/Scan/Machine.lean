import IconAssets.Shell.Scan.Program
import IconAssets.Shell.Scan.Matcher
import IconAssets.Shell.Scan.Table
import IconAssets.Shell.Utility.Call

/-!
# The state of a scanning program that runs

A record is split into fields when it is read.  A change of a field changes the record, which is put
together again when it is asked for.

Variables are cells.  A cell of a variable that has not been used yet may be shared with the
parameter of a function, so that it becomes a table when the parameter is used as one.
-/

namespace IconAssets
namespace Shell
namespace Scan

/-- What a variable holds. -/
inductive Cell where
  | value (v : Value)
  /-- A table. -/
  | table (k : Nat)
  /-- Nothing yet, but a table if it is used as one. -/
  | loose (k : Nat)

/-- What stands between fields. -/
inductive Separator where
  | blanks
  /-- Each character is a field. -/
  | nothing
  | octet (c : Char)
  | regex (r : Regex)

/-- Something that is read piece by piece. -/
structure Reader where
  /-- The handle; none if there is nothing to read. -/
  handle : Option Nat
  /-- What has been read and is not used up. -/
  rest : Text
  ended : Bool

/-- What is read record by record. -/
structure Source where
  name : Text
  /-- The process of the command whose output is read. -/
  command : Option Nat
  reader : Reader

/-- What is written to. -/
structure Sink where
  name : Text
  kind : SinkKind
  /-- The handle; none for the stream for output. -/
  handle : Option Nat
  /-- The process of the command that reads. -/
  command : Option Nat
  /-- What is yet to be passed on, the last piece first. -/
  pieces : List Text
  /-- The number of octets of these pieces. -/
  size : Nat

/-- How the running of a program leaves its place. -/
inductive Stop where
  | leave
  | again
  | nextRecord
  | nextFile
  | exit
  /-- The program ends at once. -/
  | fatal
  | back (v : Value)

/-- The state of a program that runs. -/
structure Machine where
  program : Program
  /-- The name for complaints. -/
  name : Text
  vars : List (Text × Text)
  shared : Array Cell
  own : Array Cell
  tables : Array Table
  record : Value
  /-- Whether the record has to be put together. -/
  isStale : Bool
  fields : Array Value
  fieldCount : Value
  separator : Separator
  /-- The input, if a file of it is open. -/
  input : Option Reader
  /-- The number of the next argument. -/
  next : Nat
  /-- Whether an argument has named a file. -/
  hasFile : Bool
  sources : List Source
  sinks : List Sink
  /-- Which rules for ranges of records have begun. -/
  ranges : Array Bool
  seed : Value
  random : Nat
  status : Nat

/-- A step of a program that runs, by means that start other programs. -/
def Run (α : Type) : Type 1 := Starter → Machine → Act (Except Stop α × Machine)

instance : Monad Run where
  pure a := fun _ m => pure (.ok a, m)
  bind x f := fun s m => do
    match ← x s m with
    | (.ok a, m) => f a s m
    | (.error e, m) => return (.error e, m)

instance : MonadStateOf Machine Run where
  get := fun _ m => pure (.ok m, m)
  set m := fun _ _ => pure (.ok (), m)
  modifyGet f := fun _ m => let (a, m) := f m; pure (.ok a, m)

instance : MonadExceptOf Stop Run where
  throw e := fun _ m => pure (.error e, m)
  tryCatch x f := fun s m => do
    match ← x s m with
    | (.ok a, m) => return (.ok a, m)
    | (.error e, m) => f e s m

/-- Whether a character separates fields. -/
def isBlank (c : Char) : Bool := c = ' ' || ('\t' ≤ c && c ≤ '\r')

/-- The words of a text; each call takes one. -/
def blankPieces : Nat → Text → List Text
  | 0, _ => []
  | fuel + 1, t =>
    match t.dropWhile isBlank with
    | [] => []
    | t =>
      let word := t.takeWhile fun c => !isBlank c
      word :: blankPieces fuel (t.drop word.length)

/-- The parts of a row between matches that are not empty, from a place on; the search starts at
another place, and each call takes a match. -/
def regexPieces (r : Regex) (s : Array Spelled) : Nat → Nat → Nat → List Text
  | 0, start, _ => [Regex.octetsOf (s.extract start s.size).toList]
  | fuel + 1, start, place =>
    match r.search? s place with
    | none => [Regex.octetsOf (s.extract start s.size).toList]
    | some (first, m) =>
      if m.stop = first then
        if s.size ≤ first then [Regex.octetsOf (s.extract start s.size).toList]
        else regexPieces r s fuel start (first + 1)
      else Regex.octetsOf (s.extract start first).toList :: regexPieces r s fuel m.stop m.stop

/-- The fields of a text. -/
def Separator.split (s : Separator) (t : Text) : List Text :=
  if t = [] then []
  else
    match s with
    | .blanks => blankPieces (t.length + 1) t
    | .nothing => t.map fun c => [c]
    | .octet c => Text.pieces c t
    | .regex r => regexPieces r (row t) (t.length + 1) 0 0

/-- The separator that a text spells. -/
def separatorOf (t : Text) : Except MatcherFault Separator :=
  match t with
  | [] => .ok .nothing
  | [' '] => .ok .blanks
  | [c] => .ok (.octet c)
  | t => (matcherOf t).map .regex

/-- The record at the start of a text where empty lines separate records, and what follows. -/
def paragraph? (t : Text) : Option (Text × Text) :=
  match t.dropWhile (· = '\n') with
  | [] => none
  | t =>
    let r := upToGap (t.length + 1) t
    some (r.1, r.2.dropWhile (· = '\n'))
where
  /-- What stands in front of an empty line, and what follows. -/
  upToGap : Nat → Text → Text × Text
    | 0, t => (t, [])
    | fuel + 1, t =>
      let line := t.takeWhile (· ≠ '\n')
      match t.drop line.length with
      | '\n' :: '\n' :: rest => (line, rest)
      | ['\n'] | [] => (line, [])
      | _ :: rest =>
        let r := upToGap fuel rest
        (line ++ '\n' :: r.1, r.2)

/-- The record at the start of a text, and what follows; a record at the end counts only if there is
nothing more to come. -/
def takeRecord? (separator : Text) (ended : Bool) (t : Text) :
    Except MatcherFault (Option (Text × Text)) :=
  match separator with
  | [c] =>
    let record := t.takeWhile (· ≠ c)
    match t.drop record.length with
    | _ :: rest => .ok (some (record, rest))
    | [] => .ok (if ended && t ≠ [] then some (record, []) else none)
  | [] => .ok (if ended then paragraph? t else none)
  | separator => do
    if t = [] || !ended then return none
    let r ← matcherOf separator
    let s := row t
    match firstMatch r s (s.size + 1) 0 with
    | some (start, stop) => return some (t.take start, t.drop stop)
    | none => return some (t, [])
where
  /-- The first match that is not empty, from a place on; each call takes a match. -/
  firstMatch (r : Regex) (s : Array Spelled) : Nat → Nat → Option (Nat × Nat)
    | 0, _ => none
    | fuel + 1, place =>
      match r.search? s place with
      | none => none
      | some (start, m) =>
        if start < m.stop then some (start, m.stop)
        else if s.size ≤ start then none
        else firstMatch r s fuel (start + 1)

namespace Machine

/-- The value of a shared variable. -/
def shared? (m : Machine) (s : Slot) : Value :=
  match s with
  | .shared k | .own k =>
    match m.shared[k]? with
    | some (.value v) => v
    | _ => .unset

/-- The format of numbers in texts. -/
def numberFormat (m : Machine) : Text := (m.shared? (special "CONVFMT")).toText usualFormat

/-- The text of a shared variable. -/
def textOf (m : Machine) (name : String) : Text :=
  (m.shared? (special name)).toText m.numberFormat

/-- Sets a shared variable. -/
def setShared (m : Machine) (name : String) (v : Value) : Machine :=
  match special name with
  | .shared k | .own k => { m with shared := m.shared.setIfInBounds k (.value v) }

/-- Counts a record. -/
def count (m : Machine) (name : String) : Machine :=
  m.setShared name (.number ((m.shared? (special name)).toNumber.add (.ofNat 1)))

end Machine

namespace Run

/-- Does something as a process. -/
def act {α : Type} (a : Act α) : Run α := fun _ m => do return (.ok (← a), m)

/-- The means that start other programs, used for something. -/
def starting {α : Type} (f : Starter → Run α) : Run α := fun s m => f s s m

/-- Writes a text to the stream for complaints and ends the program. -/
def abort {α : Type} (message : Text) : Run α := do
  let m ← get
  set { m with status := 2 }
  act (Act.write 2 (m.name ++ say ": " ++ message ++ ['\n']))
  throw .fatal

/-- Ends the program with a complaint about what it does. -/
def fault {α : Type} (message : Text) : Run α := do
  let m ← get
  abort (say "run time error: " ++ message ++ say "\n\tFILENAME=\"" ++ m.textOf "FILENAME" ++
    say "\" FNR=" ++ m.textOf "FNR" ++ say " NR=" ++ m.textOf "NR")

/-- A result, unless an expression is no expression. -/
def matching {α : Type} (t : Text) (r : Except MatcherFault α) : Run α :=
  match r with
  | .ok a => pure a
  | .error e => fault (say "regular expression compile failed (" ++ say e.message ++ say ")\n" ++ t)

/-- The text of a value. -/
def text (v : Value) : Run Text := return v.toText (← get).numberFormat

/-! ## Variables -/

/-- What a variable holds. -/
def cell (s : Slot) : Run Cell := do
  let m ← get
  return match s with
    | .shared k => m.shared[k]?.getD (.value .unset)
    | .own k => m.own[k]?.getD (.value .unset)

/-- Sets what a variable holds. -/
def setCell (s : Slot) (c : Cell) : Run Unit :=
  match s with
  | .shared k => modify fun m => { m with shared := m.shared.setIfInBounds k c }
  | .own k => modify fun m => { m with own := m.own.setIfInBounds k c }

/-- A new table. -/
def newTable : Run Nat := do
  let m ← get
  set { m with tables := m.tables.push .empty }
  return m.tables.size

/-- The table of a variable. -/
def tableOf (s : Slot) : Run Nat := do
  match ← cell s with
  | .table k => return k
  | .loose k => do
    setCell s (.table k)
    return k
  | .value _ => do
    let k ← newTable
    setCell s (.table k)
    return k

/-- What a parameter gets for a variable. -/
def share (s : Slot) : Run Cell := do
  match ← cell s with
  | .value .unset => do
    let k ← newTable
    setCell s (.loose k)
    return .loose k
  | c => return c

/-- A table. -/
def table (k : Nat) : Run Table := return ((← get).tables[k]?).getD .empty

/-- Changes a table. -/
def onTable (k : Nat) (f : Table → Table) : Run Unit :=
  modify fun m => { m with tables := m.tables.modify k f }

/-! ## Records and fields -/

/-- Makes a text the record. -/
def setRecord (t : Text) : Run Unit := do
  let m ← get
  let fields := (m.separator.split t).map Value.given
  set { m with record := .given t, isStale := false, fields := fields.toArray,
               fieldCount := .ofNat fields.length }

/-- The record. -/
def record : Run Value := do
  let m ← get
  if !m.isStale then return m.record
  else
    let t := (m.textOf "OFS").intercalate (m.fields.toList.map (·.toText m.numberFormat))
    set { m with record := .given t, isStale := false }
    return .given t

/-- Makes so many fields. -/
def setFieldCount (v : Value) : Run Unit := do
  let n := v.toNumber.clamped (-halfBound) 100000000
  if n < 0 then fault (say "negative value assigned to NF")
  else
    let n := n.toNat
    modify fun m => { m with
      fields := m.fields.extract 0 n ++ Array.replicate (n - m.fields.size) (.given [])
      fieldCount := v
      isStale := true }

/-- The number of a field. -/
def fieldNumber (v : Value) : Run Nat := do
  let n := v.toNumber.clamped (-halfBound) (halfBound - 1)
  if n < 0 then fault (say "negative field index $" ++ (Value.ofInt n).toText usualFormat)
  else return n.toNat

/-- The value of a field. -/
def field (n : Nat) : Run Value := do
  if n = 0 then record
  else return ((← get).fields[n - 1]?).getD (.given [])

/-- Sets a field. -/
def setField (n : Nat) (v : Value) : Run Unit := do
  if n = 0 then do
    setRecord (← text v)
    modify fun m => { m with record := v }
  else do
    if (← get).fields.size < n then setFieldCount (.ofNat n)
    modify fun m => { m with fields := m.fields.setIfInBounds (n - 1) v, isStale := true }

/-- Sets a variable to a value.  A record that is to be put together is so before it is told how. -/
def setVariable (s : Slot) (v : Value) : Run Unit := do
  if s = special "OFS" then discard record
  setCell s (.value v)
  if s = special "FS" then do
    let t ← text v
    let separator ← matching t (separatorOf t)
    modify fun m => { m with separator }
  if s = special "RS" then do
    let t ← text v
    discard (matching t (separatorOf t))

/-! ## Output -/

/-- The sink of what is written without a name. -/
def standardName : Text := "/dev/stdout".toList

/-- Whether a sink passes on what is written at once. -/
def isErrors (name : Text) : Bool := name ∈ ["/dev/stderr".toList, "/dev/fd/2".toList]

/-- Keeps a handle open. -/
def hold (k : Nat) : Act Unit := modify fun s => { s with held := k :: s.held }

/-- Closes a handle that has been kept open. -/
def release (k : Nat) : Act Unit := modify fun s => { s with held := s.held.filter (· ≠ k) }

/-- Opens something. -/
def open_ (h : Handle) : Act Nat := modifyGet fun s =>
  let (system, k) := s.system.addHandle h
  (k, { s with system })

/-- Passes on what has been written. -/
def flushed (s : Sink) : Run Unit := do
  let data := s.pieces.reverse.flatten
  if data ≠ [] then
    match s.handle with
    | none => act (Act.write 1 data)
    | some k => act do
        match (← get).system.handles[k]? with
        | some h => Act.sendTo k h (toBytes data)
        | none => return

/-- The sink with nothing to be passed on. -/
def emptied (s : Sink) : Sink := { s with pieces := [], size := 0 }

/-- Passes on what has been written anywhere. -/
def flushAll : Run Unit := do
  (← get).sinks.forM flushed
  modify fun m => { m with sinks := m.sinks.map emptied }

/-- The shell for commands whose output is read or that read output. -/
def pipeShell : Text := "/bin/sh".toList

/-- Starts a command by a shell of a name; one of its streams may be a handle. -/
def launched (shellName t : Text) (stream : Option (Nat × Nat)) : Run (Option Nat) := do
  starting fun starter => do
    let vars := (← get).vars
    let r ← act (Act.withStreams do
      match stream with
      | some (n, k) => modify fun s => s.setStream n k
      | none => pure ()
      starter.launch vars [shellName, ['-', 'c'], t])
    return r.toOption

/-- A new pipe: the handles that read and write it. -/
def newPipe : Act (Nat × Nat) := modifyGet fun s =>
  let (system, reading, writing) := s.system.addPipe .empty
  ((reading, writing), { s with system })

/-- Waits for a command; the answer is its status. -/
def joined (process : Option Nat) : Run Nat := do
  match process with
  | none => return 127
  | some n =>
    match ← act (Act.join n) with
    | .exited status => return status
    | .killed signal => return 256 + signal

/-- Runs a command by a shell; the answer is its status. -/
def command (t : Text) : Run Nat := do joined (← launched ['s', 'h'] t none)

/-- Opens a sink. -/
def opened (name : Text) (kind : SinkKind) : Run Sink := do
  if kind = .command then do
    flushAll
    let (reading, writing) ← act newPipe
    let process ← launched pipeShell name (some (0, reading))
    act (hold writing)
    return ⟨name, kind, some writing, process, [], 0⟩
  else if name ∈ [standardName, "/dev/fd/1".toList] then return ⟨name, kind, none, none, [], 0⟩
  else do
    let s ← act get
    match s.disk.create (Pattern.pathOf name) Volume.usualRights with
    | .error e =>
      abort (say "cannot open \"" ++ name ++ say "\" for output (" ++ faultWords e ++ say ")")
    | .ok (v, n) => do
      let isAdded : Bool := kind = .addition
      act (modify fun s => s.withDisk (if isAdded then v else v.setData n []))
      let k ← act (open_ ⟨.node n, 0, false, true, isAdded⟩)
      return ⟨name, kind, some k, none, [], 0⟩

/-- The most octets that are held back. -/
def mostHeld : Nat := 65536

/-- Adds a text to those sinks that are meant; what is held back is passed on if it gets long. -/
def add (isIt : Sink → Bool) (t : Text) : Run Unit := do
  let sinks ← (← get).sinks.mapM fun s => do
    if !isIt s then return s
    else
      let s := { s with pieces := t :: s.pieces, size := s.size + t.length }
      if s.size < mostHeld then return s
      else do
        flushed s
        return emptied s
  modify fun m => { m with sinks }

/-- Writes to a sink. -/
def write (sink : Option (SinkKind × Text)) (t : Text) : Run Unit := do
  match sink with
  | none => add (fun s => s.name = standardName && s.kind ≠ .command) t
  | some (kind, name) => do
    if kind ≠ .command && isErrors name then act (Act.write 2 t)
    else do
      let isIt (s : Sink) : Bool := s.name = name && (s.kind = .command) = (kind = .command)
      if !((← get).sinks.any isIt) then do
        let s ← opened name kind
        modify fun m => { m with sinks := s :: m.sinks }
      modify fun m => { m with
        sinks := m.sinks.filter isIt ++ m.sinks.filter fun s => !isIt s }
      add isIt t

/-- Closes a sink; the answer is the status of a command. -/
def closeSink (s : Sink) : Run Nat := do
  flushed s
  match s.kind, s.handle with
  | .command, some k => do
    act (release k)
    joined s.command
  | _, _ => return 0

/-- Closes all that is open. -/
def closeAll : Run Unit := do
  let m ← get
  set { m with sinks := [] }
  m.sinks.forM fun s => discard (closeSink s)

/-- Closes a source; the answer is the status of a command. -/
def closeSource (s : Source) : Run Nat := do
  match s.command, s.reader.handle with
  | some n, some k => do
    act (release k)
    joined (some n)
  | _, _ => return 0

/-- Closes what has a name; the answer is minus one if there is nothing of that name. -/
def close (name : Text) : Run Int := do
  let m ← get
  let sinks := m.sinks.filter fun s => s.name = name
  let sources := m.sources.filter fun s => s.name = name
  set { m with
    sinks := m.sinks.filter fun s => s.name ≠ name || s.name = standardName
    sources := m.sources.filter fun s => s.name ≠ name }
  let ends ← sinks.mapM closeSink
  if sinks.any fun s => s.name = standardName then
    modify fun m => { m with
      sinks := m.sinks.map fun s => if s.name = standardName then emptied s else s }
  let others ← sources.mapM closeSource
  return match (ends ++ others).getLast? with
    | some n => n
    | none => -1

/-! ## Input -/

/-- What reads a file. -/
def readerOf (name : Text) : Run (Except Disk.Fault Reader) := do
  let s ← act get
  if name ∈ [['-'], "/dev/stdin".toList, "/dev/fd/0".toList] then
    return .ok ⟨s.streams.lookup 0, [], (s.streams.lookup 0).isNone⟩
  else
    match s.disk.resolve (Pattern.pathOf name) with
    | .error e => return .error e
    | .ok place =>
      if s.disk.isFolderAt place then abort (say "read error (Is a directory)")
      else
        match s.disk.number? place with
        | none => return .error .missing
        | some n => do
          let k ← act (open_ ⟨.node n, 0, true, false, false⟩)
          return .ok ⟨some k, [], false⟩

/-- Reads more. -/
def more (r : Reader) : Run Reader := do
  match r.handle with
  | none => return { r with ended := true }
  | some k => act do
    match (← get).system.handles[k]? with
    | none => return { r with ended := true }
    | some h =>
      match ← Act.receiveFrom k h with
      | [] => return { r with ended := true }
      | data => return { r with rest := r.rest ++ ofBytes data }

/-- Takes a record from what is read; each call reads a piece. -/
def recordOf : Nat → Reader → Run (Option Text × Reader)
  | 0, r => return (none, r)
  | fuel + 1, r => do
    let separator := (← get).textOf "RS"
    match ← matching separator (takeRecord? separator r.ended r.rest) with
    | some (t, rest) => return (some t, { r with rest })
    | none => if r.ended then return (none, r) else recordOf fuel (← more r)

/-- A text with its escapes. -/
def assignedText (t : Text) : Text := unquotedText (t.length + 1) t
where
  /-- A text with its escapes; each call takes one. -/
  unquotedText : Nat → Text → Text
    | 0, _ | _, [] => []
    | fuel + 1, c :: t =>
      if c = '\\' && t ≠ [] && t.head? ≠ some '/' then
        let known := t.head?.any fun d => (control? d).isSome || isOctalDigit d || d = '"'
        if known then
          if t.head? = some '"' then '"' :: unquotedText fuel t.tail
          else (escapeAt t).1 :: unquotedText fuel (escapeAt t).2
        else c :: unquotedText fuel t
      else c :: unquotedText fuel t

/-- The name in front of an equals sign, and what follows, if there is a name. -/
def assignment? (t : Text) : Option (Text × Text) :=
  let name := t.takeWhile (· ≠ '=')
  if isName name && name.length < t.length then some (name, t.drop (name.length + 1)) else none

/-- Sets the variable of a name to a text from outside. -/
def assignNamed (name t : Text) : Run Unit := do
  let v : Value := .given (assignedText t)
  if name = "NF".toList then setFieldCount v
  else
    match (← get).program.names.findIdx? (· = name) with
    | some k => setVariable (.shared k) v
    | none => pure ()

/-- Opens the next file of the input; none is left if the answer is no.  Each call takes an
argument. -/
def openNext : Nat → Run Bool
  | 0 => return false
  | fuel + 1 => do
    let m ← get
    let arguments := (m.shared? (special "ARGC")).toNumber.clamped 0 1000000
    let start (name shown : Text) : Run Bool := do
      match ← readerOf name with
      | .ok r => do
        modify fun m => ({ m with input := some r, hasFile := true }.setShared "FILENAME"
          (.given shown)).setShared "FNR" (.ofNat 0)
        return true
      | .error e => abort (say "cannot open \"" ++ name ++ say "\" (" ++ faultWords e ++ say ")")
    if arguments ≤ m.next then
      if m.hasFile then return false else start ['-'] ['-']
    else do
      set { m with next := m.next + 1 }
      let k ← tableOf (special "ARGV")
      let key := Key.integer m.next
      let t ← table k
      let a ← if t.holds key then text (t.get key) else pure []
      if a = [] then openNext fuel
      else
        match assignment? a with
        | some (name, value) => do
          assignNamed name value
          openNext fuel
        | none => start a a

/-- The next record of the input; each call tries a file. -/
def nextRecord : Nat → Run (Option Text)
  | 0 => return none
  | fuel + 1 => do
    match (← get).input with
    | none =>
      if ← openNext ((← get).next + 1000000) then nextRecord fuel else return none
    | some r =>
      match ← recordOf Act.maxPieces r with
      | (some t, r) => do
        modify fun m => (({ m with input := some r }).count "NR").count "FNR"
        return some t
      | (none, _) => do
        modify fun m => { m with input := none }
        nextRecord fuel

/-- The most files of the input. -/
def mostFiles : Nat := 1000000

/-- The source of a name. -/
def sourceOf (isCommand : Bool) (name : Text) : Run (Option Source) := do
  if isCommand then do
    flushAll
    let (reading, writing) ← act newPipe
    let process ← launched pipeShell name (some (1, writing))
    act (hold reading)
    return some ⟨name, process, ⟨some reading, [], false⟩⟩
  else
    match ← readerOf name with
    | .ok r => return some ⟨name, none, r⟩
    | .error _ => return none

/-- The next record of a file or of what a command writes; the answer is minus one if there is no
such file, and zero at its end. -/
def recordFrom (isCommand : Bool) (name : Text) : Run (Int × Text) := do
  let isIt (s : Source) : Bool := s.name = name && s.command.isSome = isCommand
  let source ← match (← get).sources.find? isIt with
    | some s => pure (some s)
    | none => sourceOf isCommand name
  match source with
  | none => return (-1, [])
  | some s => do
    let (t, reader) ← recordOf Act.maxPieces s.reader
    modify fun m => { m with sources := { s with reader } :: m.sources.filter fun s => !isIt s }
    match t with
    | some t => return (1, t)
    | none => return (0, [])

end Run

end Scan
end Shell
end IconAssets
