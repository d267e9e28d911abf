import IconAssets.Shell.Scan.Machine

/-!
# Running scanning programs

The value of an expression is found, and a statement is done, by means that do the same for their
parts; the means are bounded by how deep calls and parts may be nested.

For each record the rules are followed in their order, up to one that asks for the next record.
-/

namespace IconAssets
namespace Shell
namespace Scan

/-- What can be done with a part of a program. -/
inductive Task : Type → Type where
  | value (e : Expr) : Task Value
  | perform (s : Statement) : Task Unit

/-- Does tasks. -/
abbrev Doer := {α : Type} → Task α → Run α

/-- What can be assigned, with its indices found. -/
inductive Spot where
  | variable (s : Slot)
  | fieldCount
  | field (n : Nat)
  | item (table : Nat) (key : Key)

/-- The value of an operation. -/
def Operator.apply (o : Operator) (a b : Quantity) : Quantity :=
  match o with
  | .add => a.add b
  | .subtract => a.subtract b
  | .multiply => a.multiply b
  | .divide => a.divide b
  | .remainder => a.remainder b
  | .power => Quantity.applying₂ Float.pow a b

/-- The pieces of a replacement; none stands for the match. -/
def replacementPieces : Nat → Text → List (Option Char)
  | 0, _ | _, [] => []
  | fuel + 1, c :: t =>
    match c, t with
    | '&', _ => none :: replacementPieces fuel t
    | '\\', '&' :: u => some '&' :: replacementPieces fuel u
    | '\\', '\\' :: '&' :: u => some '\\' :: none :: replacementPieces fuel u
    | '\\', '\\' :: '\\' :: '&' :: u => some '\\' :: some '&' :: replacementPieces fuel u
    | c, t => some c :: replacementPieces fuel t

/-- Replaces matches from a place on; `last` is where the last match has stopped.  The answer is the
text and the number of matches; each call takes a match or an octet. -/
def replaceFrom (r : Regex) (isGlobal : Bool) (pieces : List (Option Char)) (s : Array Spelled) :
    Nat → Nat → Option Nat → Nat → Text → Text × Nat
  | 0, _, _, count, done => (done, count)
  | fuel + 1, start, last, count, done =>
    let part (a b : Nat) : Text := Regex.octetsOf (s.extract a b).toList
    match r.search? s start with
    | none => (done ++ part start s.size, count)
    | some (place, m) =>
      let done := done ++ part start place
      let stepped (done : Text) (count : Nat) : Text × Nat :=
        if s.size ≤ place then (done, count)
        else
          replaceFrom r isGlobal pieces s fuel (place + 1) none count
            (done ++ part place (place + 1))
      if m.stop = place && last = some place then stepped done count
      else
        let found := part place m.stop
        let done := done ++ pieces.flatMap fun p => (p.map fun c => [c]).getD found
        if !isGlobal then (done ++ part m.stop s.size, count + 1)
        else if m.stop = place then stepped done (count + 1)
        else replaceFrom r isGlobal pieces s fuel m.stop (some m.stop) (count + 1) done

/-- The place of a text in another one, counted from one. -/
def indexOf (part : Text) : Text → Nat → Nat
  | [], n => if part = [] then n else 0
  | c :: t, n => if part.isPrefixOf (c :: t) then n else indexOf part t (n + 1)

/-- A part of a text: it starts at a place counted from one, and is so long if that is told. -/
def partOf (t : Text) (start : Quantity) (length : Option Quantity) : Text :=
  let bound : Int := t.length + 1
  let whole (x : Quantity) : Int := x.clamped (-1000000000) 1000000000
  let first := if start.isUndefined then 1 else whole start
  let count := (length.map whole).getD bound
  if first < 1 then
    if length.isNone then t else t.take (count - first).toNat
  else (t.drop (first - 1).toNat).take count.toNat

namespace Run

/-- Does tasks one after the other. -/
def values (d : Doer) (es : List Expr) : Run (List Value) := es.mapM fun e => d (.value e)

/-- The key that expressions make. -/
def key (d : Doer) (es : List Expr) : Run Key := do
  match es with
  | [e] => return Key.ofValue (← get).numberFormat (← d (.value e))
  | es => do
    let ts ← (← values d es).mapM text
    return .text (((← get).textOf "SUBSEP").intercalate ts)

/-- Finds what is to be assigned. -/
def spot (d : Doer) (e : Expr) : Run Spot := do
  match e with
  | .variable s => return .variable s
  | .fieldCount => return .fieldCount
  | .field e => return .field (← fieldNumber (← d (.value e)))
  | .item s es => do
    let k ← key d es
    let t ← tableOf s
    onTable t (·.touch k true)
    return .item t k
  | _ => return .field 0

/-- The value of a variable. -/
def variableValue (s : Slot) : Run Value := do
  match ← cell s with
  | .value v => return v
  | _ => return .unset

/-- The value at a spot. -/
def valueAt (p : Spot) : Run Value := do
  match p with
  | .variable s => variableValue s
  | .fieldCount => return (← get).fieldCount
  | .field n => field n
  | .item t k => return (← table t).get k

/-- Sets the value at a spot. -/
def setAt (p : Spot) (v : Value) : Run Unit := do
  match p with
  | .variable s => setVariable s v
  | .fieldCount => setFieldCount v
  | .field n => setField n v
  | .item t k => onTable t (·.set k v)

/-- The expression that an expression stands for. -/
def regexOf (d : Doer) (e : Expr) : Run Regex := do
  match e with
  | .regex r => return r
  | e => do
    let t ← text (← d (.value e))
    matching t (matcherOf t)

/-- Fills in a format; what comes before a fault is written if `writes` says so. -/
def filled (caller : String) (writes : Text → Run Unit) (vs : List Value) : Run Text := do
  match vs with
  | [] => return []
  | v :: vs => do
    let format ← text v
    match fill (← get).numberFormat format vs with
    | (t, none) => return t
    | (t, some f) => do
      writes t
      let place := say (caller ++ "(\"") ++ format ++ say "\")"
      match f with
      | .tooFewValues => fault (say "not enough arguments passed to " ++ place)
      | .improper n =>
        fault (say "improper conversion(number " ++ Text.ofNat n ++ say ") in " ++ place)

/-- The value of a function of the language. -/
def builtin (d : Doer) (b : Builtin) (es : List Expr) : Run Value := do
  let vs ← values d es
  let first := vs.headD .unset
  let numeric (f : Float → Float) : Run Value := return .number (first.toNumber.applying f)
  let second := vs.tail.headD .unset
  match b with
  | .length => do
    let v ← if vs.isEmpty then record else pure first
    return .ofNat (← text v).length
  | .index => return .ofNat (indexOf (← text second) (← text first) 1)
  | .substr =>
    return .text (partOf (← text first) second.toNumber ((vs.drop 2).head?.map Value.toNumber))
  | .sprintf => return .text (← filled "sprintf" (fun _ => pure ()) vs)
  | .sin => numeric Float.sin
  | .cos => numeric Float.cos
  | .atan2 => return .number (Quantity.applying₂ Float.atan2 first.toNumber second.toNumber)
  | .exp => numeric Float.exp
  | .log => numeric Float.log
  | .int => return .number first.toNumber.truncated
  | .sqrt => numeric Float.sqrt
  | .rand => do
    let m ← get
    let next := (m.random * 6364136223846793005 + 1442695040888963407) % Nat.pow 2 64
    set { m with random := next }
    return .number (Quantity.nearest false (next / Nat.pow 2 11) (Nat.pow 2 53))
  | .srand => do
    let m ← get
    let seed := if vs.isEmpty then .ofNat 0 else first
    set { m with seed, random := (seed.toNumber.clamped 0 (wordBound - 1)).toNat }
    return m.seed
  | .close => return .ofInt (← close (← text first))
  | .system => do
    flushAll
    return .ofNat (← command (← text first))
  | .toupper => return .text ((← text first).map Char.toUpper)
  | .tolower => return .text ((← text first).map Char.toLower)
  | .fflush => do
    if vs.isEmpty then do
      flushAll
      return .ofNat 0
    else do
      let name ← text first
      let isOpen := (← get).sinks.any fun s => s.name = name
      if isOpen then flushAll
      return .ofInt (if isOpen then 0 else -1)
  | .mktime | .systime => return .ofInt 0
  | .strftime => return .text []

/-- The value of a call of a function of the program. -/
def call (d : Doer) (f : Nat) (es : List Expr) : Run Value := do
  let cells ← es.mapM fun e =>
    match e with
    | .variable s => share s
    | e => do
      let v ← d (Task.value e)
      return Cell.value v
  let m ← get
  match m.program.functions[f]? with
  | none => return .unset
  | some function => do
    let missing := function.parameters - cells.length
    set { m with own := cells.toArray ++ Array.replicate missing (Cell.value .unset) }
    let back (v : Value) : Run Value := do
      modify fun t => { t with own := m.own }
      return v
    tryCatch (do
        d (.perform function.body)
        back .unset) fun
      | .back v => back v
      | stop => throw stop

/-- Puts a text from outside somewhere. -/
def put (into : Option Spot) (t : Text) : Run Unit :=
  match into with
  | none => setRecord t
  | some p => setAt p (.given t)

/-- Finds what is to be assigned, if there is something. -/
def spot? (d : Doer) (e : Option Expr) : Run (Option Spot) := do
  match e with
  | none => return none
  | some e => return some (← spot d e)

/-- The value of an expression. -/
def value (d : Doer) (e : Expr) : Run Value := do
  match e with
  | .number x => return .number x
  | .text t => return .text t
  | .regex r => return .ofBool (r.isFoundIn (row (← text (← record))))
  | .variable s => variableValue s
  | .fieldCount => return (← get).fieldCount
  | .field e => field (← fieldNumber (← d (.value e)))
  | .item s es => do
    let k ← key d es
    let t ← tableOf s
    onTable t (·.touch k true)
    return (← table t).get k
  | .assign e v => do
    let p ← spot d e
    let v ← d (.value v)
    setAt p v
    return v
  | .change o e v => do
    let p ← spot d e
    let v ← d (.value v)
    let x := Value.number (o.apply (← valueAt p).toNumber v.toNumber)
    setAt p x
    return x
  | .step o isNew e => do
    let p ← spot d e
    let old := (← valueAt p).toNumber
    let new := o.apply old (.ofNat 1)
    setAt p (.number new)
    return .number (if isNew then new else old)
  | .choice test a b => d (.value (if (← d (.value test)).isTrue then a else b))
  | .both a b => do
    if (← d (.value a)).isTrue then return .ofBool (← d (.value b)).isTrue else return .ofBool false
  | .either a b => do
    if (← d (.value a)).isTrue then return .ofBool true else return .ofBool (← d (.value b)).isTrue
  | .not a => return .ofBool !(← d (.value a)).isTrue
  | .holds es s => do
    let k ← key d es
    let t ← tableOf s
    onTable t (·.touch k false)
    return .ofBool ((← table t).holds k)
  | .found negated subject pattern => do
    let t ← text (← d (.value subject))
    let r ← regexOf d pattern
    return .ofBool (r.isFoundIn (row t) ≠ negated)
  | .relation r a b => do
    let x ← d (.value a)
    let y ← d (.value b)
    return .ofBool (r.holds (x.order (← get).numberFormat y))
  | .joined a b => do
    let x ← d (.value a)
    let y ← d (.value b)
    return .text ((← text x) ++ (← text y))
  | .operation o a b => do
    let x ← d (.value a)
    let y ← d (.value b)
    return .number (o.apply x.toNumber y.toNumber)
  | .minus a => return .number (← d (.value a)).toNumber.negate
  | .plus a => return .number (← d (.value a)).toNumber
  | .call f es => call d f es
  | .builtin b es => builtin d b es
  | .lengthOf s => do
    match ← cell s with
    | .table k => return .ofNat (← table k).size
    | .loose _ => return .ofNat 0
    | .value v => return .ofNat (← text v).length
  | .split subject s separator => do
    let t ← text (← d (.value subject))
    let by_ ← match separator with
      | none => pure (← get).separator
      | some (.regex r) => pure (.regex r)
      | some e => do
        let t ← text (← d (.value e))
        matching t (separatorOf t)
    let parts := by_.split t
    let k ← tableOf s
    onTable k fun _ => .ofRow (parts.map .given)
    return .ofNat parts.length
  | .locate subject pattern => do
    let t ← text (← d (.value subject))
    let r ← regexOf d pattern
    let (start, length) : Nat × Int := match r.search? (row t) 0 with
      | some (place, m) => (place + 1, m.stop - place)
      | none => (0, -1)
    modify fun m => (m.setShared "RSTART" (.ofNat start)).setShared "RLENGTH" (.ofInt length)
    return .ofNat start
  | .substitute isGlobal pattern replacement target => do
    let r ← regexOf d pattern
    let new ← text (← d (.value replacement))
    let p ← spot d target
    let s := row (← text (← valueAt p))
    let (t, n) := replaceFrom r isGlobal (replacementPieces (new.length + 1) new) s (s.size + 2) 0
      none 0 []
    if 0 < n then setAt p (.text t)
    return .ofNat n
  | .read target => do
    let p ← spot? d target
    match ← nextRecord mostFiles with
    | none => return .ofNat 0
    | some t => do
      put p t
      return .ofNat 1
  | .readFrom isCommand name target => do
    let (p, name) ← if isCommand then do
        let name ← text (← d (.value name))
        pure (← spot? d target, name)
      else do
        let p ← spot? d target
        pure (p, ← text (← d (.value name)))
    match ← recordFrom isCommand name with
    | (1, t) => do
      put p t
      return .ofNat 1
    | (n, _) => return .ofInt n

/-- Where a statement writes. -/
def sinkOf (d : Doer) (sink : Option (SinkKind × Expr)) : Run (Option (SinkKind × Text)) := do
  match sink with
  | none => return none
  | some (kind, e) => return some (kind, ← text (← d (.value e)))

/-- The most rounds of a loop. -/
def mostRounds : Nat := 1000000000

/-- Does the body of a loop once; the answer is whether the loop goes on. -/
def onceThrough (body : Run Unit) : Run Bool :=
  tryCatch (do
      body
      return true) fun
    | .again => return true
    | .leave => return false
    | stop => throw stop

/-- Does a loop whose test comes first; each call is a round. -/
def whileLoop (test : Run Bool) (step body : Run Unit) : Nat → Run Unit
  | 0 => act (throw (.killed deadlySignal))
  | fuel + 1 => do
    if fuel % breath = 0 then act Act.breathe
    if ← test then
      if ← onceThrough body then do
        step
        whileLoop test step body fuel

/-- Does a loop whose body comes first; each call is a round. -/
def untilLoop (test : Run Bool) (body : Run Unit) : Nat → Run Unit
  | 0 => act (throw (.killed deadlySignal))
  | fuel + 1 => do
    if fuel % breath = 0 then act Act.breathe
    if ← onceThrough body then
      if ← test then untilLoop test body fuel

/-- Does something for each key of a table, up to a way out. -/
def forKeys (key : Slot) (body : Run Unit) : List Text → Run Unit
  | [] => pure ()
  | k :: ks => do
    setVariable key (.given k)
    if ← onceThrough body then forKeys key body ks

/-- Does a statement. -/
def perform (d : Doer) (s : Statement) : Run Unit := do
  match s with
  | .value e => discard (d (.value e))
  | .print items sink => do
    let t ← match items with
      | [] => do text (← record)
      | items => do
        let vs ← values d items
        let m ← get
        let ts := vs.map (·.toText (m.textOf "OFMT"))
        pure ((m.textOf "OFS").intercalate ts)
    let sink ← sinkOf d sink
    write sink (t ++ (← get).textOf "ORS")
  | .printf items sink => do
    let vs ← values d items
    let sink ← sinkOf d sink
    write sink (← filled "printf" (write sink) vs)
  | .block ss => ss.forM fun s => d (.perform s)
  | .branch test yes no => do
    if (← d (.value test)).isTrue then d (.perform yes) else d (.perform no)
  | .loop test isFirst step body => do
    let holds : Run Bool := match test with
      | none => return true
      | some e => do return (← d (.value e)).isTrue
    let steps : Run Unit := match step with
      | none => pure ()
      | some e => discard (d (.value e))
    if isFirst then whileLoop holds steps (d (.perform body)) mostRounds
    else untilLoop holds (d (.perform body)) mostRounds
  | .forKeys key s body => do
    let k ← tableOf s
    let t := (← table k).indexed
    onTable k fun _ => t
    forKeys key (d (.perform body)) t.keys
  | .delete s [] => do
    let k ← tableOf s
    onTable k fun _ => .empty
  | .delete s es => do
    let name ← key d es
    let k ← tableOf s
    onTable k (·.erase name)
  | .leave => throw .leave
  | .again => throw .again
  | .nextRecord => throw .nextRecord
  | .nextFile => throw .nextFile
  | .exit status => do
    match status with
    | none => pure ()
    | some e => do
      let n := (← d (.value e)).toNumber.clamped (-halfBound) (halfBound - 1)
      modify fun m => { m with status := (n % 256).toNat }
    throw .exit
  | .back v => do
    match v with
    | none => throw (.back .unset)
    | some e => throw (.back (← d (.value e)))

/-- Does a task by means that do its parts. -/
def step (d : Doer) : {α : Type} → Task α → Run α
  | _, .value e => value d e
  | _, .perform s => perform d s

/-- Does a task whose parts are nested no deeper than given. -/
def within : Nat → {α : Type} → Task α → Run α
  | 0, _, _ => abort (say "program limit exceeded: eval stack size=1024")
  | depth + 1, _, t => step (within depth) t

/-- How deep parts and calls may be nested. -/
def mostDepth : Nat := 4000

/-- Does a statement of a rule. -/
def statement (s : Statement) : Run Unit := within mostDepth (.perform s)

/-- Whether an expression of a rule is true. -/
def isTrue (e : Expr) : Run Bool := return (← within mostDepth (.value e)).isTrue

/-- Whether a rule is followed for the record; its number is given. -/
def applies (k : Nat) (c : Condition) : Run Bool := do
  match c with
  | .always => return true
  | .holds e => isTrue e
  | .range first last => do
    let begun := (← get).ranges[k]?.getD false
    if begun || (← isTrue first) then do
      let ends ← isTrue last
      modify fun m => { m with ranges := m.ranges.setIfInBounds k !ends }
      return true
    else return false

/-- Follows rules for the record. -/
def follow (rules : List (Rule × Nat)) : Run Unit :=
  rules.forM fun (r, k) => do
    if ← applies k r.condition then statement r.body

/-- Follows the rules for all records; each call takes one. -/
def records (rules : List (Rule × Nat)) : Nat → Run Unit
  | 0 => pure ()
  | fuel + 1 => do
    match ← nextRecord mostFiles with
    | none => pure ()
    | some t => do
      setRecord t
      tryCatch (follow rules) fun
        | .nextRecord => pure ()
        | .nextFile => modify fun m => { m with input := none }
        | stop => throw stop
      records rules fuel

/-- The most records. -/
def mostRecords : Nat := 100000000

/-- Does something up to where the program exits; the answer is whether it goes on. -/
def upToExit (body : Run Unit) : Run Bool :=
  tryCatch (do
      body
      return true) fun
    | .exit => return false
    | .nextRecord | .nextFile => return true
    | stop => throw stop

/-- Does what a program says. -/
def program : Run Unit := do
  let p := (← get).program
  tryCatch (do
      if ← upToExit (p.before.forM statement) then
        if !p.rules.isEmpty || !p.after.isEmpty then
          discard (upToExit (records (p.rules.zipIdx 0) mostRecords))
      discard (upToExit (p.after.forM statement))) fun _ => pure ()
  closeAll

end Run

/-- The value of each variable that the language gives a meaning to, before a program runs. -/
def startValues : List (String × Value) :=
  [("NR", .ofNat 0), ("FNR", .ofNat 0), ("FS", .text [' ']), ("ORS", .text ['\n']),
    ("RS", .text ['\n']), ("OFS", .text [' ']), ("SUBSEP", .text ['\x1c']),
    ("RSTART", .ofNat 0), ("RLENGTH", .ofInt (-1)), ("CONVFMT", .text usualFormat),
    ("OFMT", .text usualFormat), ("FILENAME", .text [])]

/-- The state in which a program starts, with the arguments behind its name. -/
def Machine.start (name : Text) (program : Program)
    (vars : List (Text × Text)) (arguments : List Text) : Machine :=
  let words := (name :: arguments).zipIdx 0
  let argumentTable := words.foldl (fun (t : Table) w =>
    (t.touch (.integer w.2) true).set (.integer w.2) (.given w.1)) .empty
  let environment := vars.foldl (fun (t : Table) v =>
    (t.touch (.text v.1) true).set (.text v.1) (.given v.2)) .empty
  let cellOf (name : Text) : Cell :=
    if name = "ARGV".toList then .table 0
    else if name = "ENVIRON".toList then .table 1
    else if name = "ARGC".toList then .value (.ofNat words.length)
    else .value ((startValues.lookup (String.ofList name)).getD .unset)
  { program, name, vars, shared := (program.names.map cellOf).toArray,
    own := #[], tables := #[argumentTable, environment], record := .given [], isStale := false,
    fields := #[], fieldCount := .ofNat 0, separator := .blanks, input := none, next := 1,
    hasFile := false, sources := [], sinks := [⟨Run.standardName, .file, none, none, [], 0⟩],
    ranges := (program.rules.map fun _ => false).toArray, seed := .ofNat 0, random := 1,
    status := 0 }

end Scan
end Shell
end IconAssets
