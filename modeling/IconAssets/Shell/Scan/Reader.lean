import IconAssets.Shell.Scan.Token

/-!
# Reading scanning programs

Expressions are read by the strength of what binds them; what stands side by side is joined, weaker
than sums and stronger than relations.  An assignment may stand wherever a variable starts an
operand of those weaker kinds.

After a fault the reading goes on behind the statement, so that more faults are told.
-/

namespace IconAssets
namespace Shell
namespace Scan

/-- An operand that has been read. -/
inductive Operand where
  | plain (e : Expr)
  /-- What may be assigned. -/
  | place (e : Expr)
  /-- Expressions in parentheses. -/
  | row (es : List Expr)

/-- A part of a program. -/
inductive Part : Type → Type where
  /-- An expression that operators of a strength hold together. -/
  | expr (strength : Nat) : Part Expr
  /-- An operand of what is joined. -/
  | operand (strength : Nat) : Part Operand
  | statement : Part Statement

/-- The signs of relations. -/
def relations : List (String × Relation) :=
  [("<", .less), ("<=", .atMost), ("==", .same), ("!=", .other), (">", .more), (">=", .atLeast)]

/-- The operators of an assignment that computes. -/
def assignments : List (String × Operator) :=
  [("+=", .add), ("-=", .subtract), ("*=", .multiply), ("/=", .divide), ("%=", .remainder),
    ("^=", .power)]

/-- The operators between numbers, with the strength of each and of what follows it. -/
def operations : List (String × Operator × Nat × Nat) :=
  [("+", .add, 10, 11), ("-", .subtract, 10, 11), ("*", .multiply, 11, 12), ("/", .divide, 11, 12),
    ("%", .remainder, 11, 12), ("^", .power, 14, 14)]

/-- Whether a variable may be used in a role. -/
def Role.admits (known used : Role) : Bool := known = .unknown || used = .unknown || known = used

namespace Parse

/-- The variable of a name that is used in a role. -/
def slot (name : Text) (role : Role) : Parse Slot := do
  let d ← get
  let refer (kind : String) (known : Role) : Parse Unit := do
    if !known.admits role then
      complainHere (say ("illegal reference to " ++ kind ++
        (if known = .table then "array " else "variable ")) ++ name)
  match d.own.findIdx? fun v => v.1 = name with
  | some k => do
    let known := (d.own[k]?.map (·.2)).getD .unknown
    refer "local " known
    if known = .unknown then set { d with own := d.own.setIfInBounds k (name, role) }
    return .own k
  | none =>
    match d.shared.findIdx? fun v => v.1 = name with
    | some k => do
      let known := (d.shared[k]?.map (·.2)).getD .unknown
      refer "" known
      if known = .unknown then set { d with shared := d.shared.setIfInBounds k (name, role) }
      return .shared k
    | none => do
      set { d with shared := d.shared.push (name, role) }
      return .shared d.shared.size

/-- The expression that a text spells. -/
def compiled (t : Text) : Parse Regex := do
  match matcherOf t with
  | .ok r => return r
  | .error fault => do
    complainHere (say "regular expression compile failed (" ++ say fault.message ++ say ")\n" ++ t)
    throw .stopped

/-- An expression in the place of a regular expression. -/
def asPattern (e : Expr) : Parse Expr := do
  match e with
  | .text t => return .regex (← compiled t)
  | e => return e

/-- Reads parts of a part. -/
abbrev Sub := {α : Type} → Part α → Parse α

/-- Whether the next token starts an operand that is joined. -/
def startsOperand : Parse Bool := do
  let t ← peek
  match t.kind with
  | .number _ | .text | .regex _ | .field _ | .fieldCount | .name | .called | .builtin _ => return true
  | .word => return t.shown ∈ ["getline", "length", "split", "sub", "gsub", "match"].map String.toList
  | .sign => return t.shown ∈ ["$", "(", "!", "++", "--"].map String.toList
  | _ => return false

/-- Reads expressions with commas between them; each call reads one. -/
def exprs (sub : Sub) : Nat → Parse (List Expr)
  | 0 => throw .stopped
  | fuel + 1 => do
    let e ← sub (.expr 1)
    if ← isNext "," then do
      discard take
      return e :: (← exprs sub fuel)
    else return [e]

/-- The most expressions in a row. -/
def mostExprs : Nat := 10000

/-- Makes it known that expressions that are names are those of variables. -/
def settle (es : List Expr) : Parse Unit := do
  for e in es do
    match e with
    | .variable (.own k) =>
      modify fun d => { d with own := d.own.modify k fun v =>
        if v.2 = .unknown then (v.1, .scalar) else v }
    | .variable (.shared k) =>
      modify fun d => { d with shared := d.shared.modify k fun v =>
        if v.2 = .unknown then (v.1, .scalar) else v }
    | _ => pure ()

/-- Reads the arguments between parentheses. -/
def arguments (sub : Sub) : Parse (List Expr) := do
  expect "("
  if ← isNext ")" then do
    discard take
    return []
  else do
    let es ← exprs sub mostExprs
    expect ")"
    return es

/-- Reads a variable or an element behind a name.  A name in front of a comma or a parenthesis may be
that of a table. -/
def named (sub : Sub) (name : Text) : Parse Expr := do
  if ← isNext "[" then do
    discard take
    let table ← slot name .table
    let key ← exprs sub mostExprs
    expect "]"
    return .item table key
  else do
    let mayBeTable := (← isNext ",") || (← isNext ")")
    return .variable (← slot name (if mayBeTable then .unknown else .scalar))

/-- Reads a name as a table. -/
def table : Parse Slot := do
  let t ← peek
  match t.kind with
  | .name => do
    discard take
    slot t.shown .table
  | _ => fail

/-- Reads what a record is put into, if there is something. -/
def target? (sub : Sub) : Parse (Option Expr) := do
  let t ← peek
  match t.kind with
  | .name => do
    discard take
    return some (← named sub t.shown)
  | .field n => do
    discard take
    return some (.field (.number (.ofNat n)))
  | .fieldCount => do
    discard take
    return some .fieldCount
  | _ =>
    if ← isNext "$" then
      match ← sub (.operand 16) with
      | .place e => return some e
      | _ => fail
    else return none

/-- Reads what is put into a place; something has to be.  Only a field may stand in parentheses. -/
def target (sub : Sub) : Parse Expr := do
  if ← isNext "(" then do
    discard take
    match (← peek).kind with
    | .field _ | .fieldCount => pure ()
    | _ => if !(← isNext "$") then fail
    match ← target? sub with
    | some e => do
      expect ")"
      return e
    | none => fail
  else
    match ← target? sub with
    | some e => return e
    | none => fail

/-- Reads what follows an opening parenthesis. -/
def parenthesized (sub : Sub) : Parse Operand := do
  let e ← sub (.expr 1)
  if ← isNext "," then do
    discard take
    let es ← exprs sub mostExprs
    expect ")"
    settle (e :: es)
    if ← isWord "in" then do
      discard take
      return .plain (.holds (e :: es) (← table))
    else return .row (e :: es)
  else do
    expect ")"
    settle [e]
    match e with
    | .field _ | .fieldCount => return .place e
    | e => return .plain e

/-- Reads what gets a record: a file if one is named, else the input. -/
def getline (sub : Sub) : Parse Operand := do
  modify fun d => { d with getting := true }
  let into ← target? sub
  let t ← peek
  modify fun d => { d with getting := false }
  match t.kind with
  | .source => do
    discard take
    match ← sub (.operand 14) with
    | .plain e | .place e => return .plain (.readFrom false e into)
    | .row _ => fail
  | _ => return .plain (.read into)

/-- Reads a call of a function of the language. -/
def builtinCall (sub : Sub) (name : Text) (b : Builtin) : Parse Operand := do
  let es ← arguments sub
  settle es
  match builtins.lookup (String.ofList name) with
  | some (_, least, most) =>
    if es.length < least || most < es.length then
      complainHere (say "wrong number of arguments in call to " ++ name)
  | none => pure ()
  return .plain (.builtin b es)

/-- What an argument is known to be. -/
def roleOf (d : Desk) (e : Expr) : Role :=
  match e with
  | .variable (.shared k) => (d.shared[k]?.map (·.2)).getD .unknown
  | .variable (.own k) => (d.own[k]?.map (·.2)).getD .unknown
  | _ => .scalar

/-- Complains about an argument that is not what the parameter is. -/
def mismatch (line number : Nat) (function : Text) (actual : Role) : Parse Unit := do
  let kinds := if actual = .scalar then "variable vs local array" else "array vs local variable"
  complain ((← get).placeOf line ++ say ": type error in arg(" ++ Text.ofNat number ++
    say ") in call to " ++ function ++ say (" (actual local " ++ kinds ++ ")"))

/-- Compares an argument with the parameter of a function that has been read, or tells what the
parameter of another function will be.  The answer is the variable if nothing is known of it. -/
def argument (function line number : Nat) (e : Expr) : Parse (Option (Nat × Passed)) := do
  let d ← get
  match d.functions[function]? with
  | none => return none
  | some f => do
    let actual := roleOf d e
    let known := f.roles[number]?.getD .unknown
    if f.body.isSome then do
      match e, actual with
      | .variable (.shared k), .unknown =>
        set { d with shared := d.shared.modify k fun v => (v.1, known) }
      | _, .unknown => pure ()
      | _, _ => if !known.admits actual then mismatch line (number + 1) f.name actual
      return none
    else if actual = .unknown then
      return match e with
        | .variable (.shared k) => some (number, .shared k)
        | .variable (.own k) => some (number, .parameter d.inside k)
        | _ => none
    else do
      let roles := f.roles ++ Array.replicate (number + 1 - f.roles.size) Role.unknown
      let roles := if known = .unknown then roles.setIfInBounds number actual else roles
      set { d with functions := d.functions.setIfInBounds function { f with roles } }
      return none

/-- Reads a call of a function of the program. -/
def call (sub : Sub) (name : Text) : Parse Operand := do
  let line := (← get).tokenLine
  let es ← arguments sub
  let k := ((← get).functions.findIdx? fun f => f.name = name).getD 0
  let open_ ← (es.zipIdx 0).filterMapM fun (e, i) => argument k line i e
  modify fun d => { d with calls := ⟨k, line, es.length, open_⟩ :: d.calls }
  return .plain (.call k es)

/-- Reads what follows a word that starts an operand. -/
def wordOperand (sub : Sub) (word : String) : Parse Operand := do
  match word with
  | "getline" => getline sub
  | "length" =>
    if ← isNext "(" then do
      discard take
      if ← isNext ")" then do
        discard take
        return .plain (.builtin .length [])
      else do
        let e ← sub (.expr 1)
        expect ")"
        match e with
        | .variable s => return .plain (.lengthOf s)
        | e => return .plain (.builtin .length [e])
    else return .plain (.builtin .length [])
  | "split" => do
    expect "("
    let subject ← sub (.expr 1)
    settle [subject]
    expect ","
    let t ← table
    if ← isNext ")" then do
      discard take
      return .plain (.split subject t none)
    else do
      expect ","
      let separator ← sub (.expr 1)
      expect ")"
      return .plain (.split subject t (some separator))
  | "match" => do
    expect "("
    let subject ← sub (.expr 1)
    settle [subject]
    expect ","
    let pattern ← asPattern (← sub (.expr 1))
    expect ")"
    return .plain (.locate subject pattern)
  | "sub" | "gsub" => do
    expect "("
    let pattern ← asPattern (← sub (.expr 1))
    expect ","
    let replacement ← sub (.expr 1)
    settle [pattern, replacement]
    if ← isNext ")" then do
      discard take
      return .plain (.substitute (word = "gsub") pattern replacement (.field (.number .zero)))
    else do
      expect ","
      let into ← target sub
      settle [into]
      expect ")"
      return .plain (.substitute (word = "gsub") pattern replacement into)
  | _ => fail

/-- Reads what follows the sign for a field. -/
def fieldBehind (sub : Sub) : Parse Operand := do
  let t ← peek
  match t.kind with
  | .name => do
    discard take
    let e ← named sub t.shown
    settle [e]
    return .place (.field e)
  | _ =>
    match ← sub (.operand 17) with
    | .plain e | .place e => return .place (.field e)
    | .row _ => fail

/-- Reads an operand up to the operators between numbers. -/
def primary (sub : Sub) : Parse Operand := do
  let t ← peek
  let prefixed (make : Expr → Expr) : Parse Operand := do
    discard take
    match ← sub (.operand 13) with
    | .plain e | .place e => do
      settle [e]
      return .plain (make e)
    | .row _ => fail
  match t.kind with
  | .number x => do
    discard take
    return .plain (.number x)
  | .text => do
    discard take
    return .plain (.text t.shown)
  | .regex r => do
    discard take
    return .plain (.regex (← compiled r))
  | .field n => do
    discard take
    return .place (.field (.number (.ofNat n)))
  | .fieldCount => do
    discard take
    return .place .fieldCount
  | .name => do
    discard take
    return .place (← named sub t.shown)
  | .called => do
    discard take
    call sub t.shown
  | .builtin b => do
    discard take
    builtinCall sub t.shown b
  | .word =>
    if ← startsOperand then do
      discard take
      wordOperand sub (String.ofList t.shown)
    else fail
  | .sign =>
    match String.ofList t.shown with
    | "(" => do
      discard take
      parenthesized sub
    | "!" => prefixed .not
    | "-" => prefixed .minus
    | "+" => prefixed .plus
    | "$" => do
      discard take
      fieldBehind sub
    | "++" | "--" => do
      discard take
      let e ← target sub
      settle [e]
      return .plain (.step (if t.shown = ['+', '+'] then .add else .subtract) true e)
    | _ => fail
  | _ => fail

/-- Reads the steps and operators behind an operand that are at least as strong as asked; each call
takes one. -/
def operations (sub : Sub) (strength : Nat) : Nat → Operand → Parse Operand
  | 0, _ => throw .stopped
  | fuel + 1, left => do
    let t ← peek
    match t.kind, left with
    | .sign, .place e =>
      if t.shown = ['+', '+'] || t.shown = ['-', '-'] then do
        discard take
        settle [e]
        let o := if t.shown = ['+', '+'] then Operator.add else .subtract
        operations sub strength fuel (.plain (.step o false e))
      else between t fuel left e
    | .sign, .plain e => between t fuel left e
    | _, _ => return left
where
  /-- Goes on with an operator between numbers or with a command that is read from, if one comes
  next. -/
  between (t : Token) (fuel : Nat) (left : Operand) (e : Expr) : Parse Operand := do
    let s := String.ofList t.shown
    match Scan.operations.lookup s with
    | some (o, own, next) =>
      if strength ≤ own then do
        discard take
        settle [e]
        match ← sub (.operand next) with
        | .plain f | .place f => do
          settle [f]
          operations sub strength fuel (.plain (.operation o e f))
        | .row _ => fail
      else return left
    | none =>
      if s = "|" && strength ≤ 13 then do
        discard take
        if ← isWord "getline" then do
          discard take
          settle [e]
          let into ← target? sub
          operations sub strength fuel (.plain (.readFrom true e into))
        else fail
      else return left

/-- The most operators in a row. -/
def mostOperators : Nat := 100000

/-- Reads an operand with the operators that are at least as strong as asked. -/
def operand (sub : Sub) (strength : Nat) : Parse Operand := do
  match ← primary sub with
  | .row es => return .row es
  | o => operations sub strength mostOperators o

/-- Reads what is joined with an expression. -/
def joined (sub : Sub) : Nat → Expr → Parse Expr
  | 0, _ => throw .stopped
  | fuel + 1, e => do
    if ← startsOperand then
      match ← sub (.operand 9) with
      | .plain f | .place f => do
        settle [e, f]
        joined sub fuel (.joined e f)
      | .row _ => fail
    else return e

/-- Reads the operators behind an expression that are at least as strong as asked; each call takes
one. -/
def operators (sub : Sub) (strength : Nat) : Nat → Expr → Parse Expr
  | 0, _ => throw .stopped
  | fuel + 1, e => do
    let t ← peek
    let s := String.ofList t.shown
    let next (own : Nat) (make : Expr → Parse Expr) : Parse Expr := do
      discard take
      settle [e]
      let f ← sub (.expr own)
      settle [f]
      operators sub strength fuel (← make f)
    match t.kind with
    | .word =>
      if s = "in" && strength ≤ 5 then do
        discard take
        settle [e]
        operators sub strength fuel (.holds [e] (← table))
      else return e
    | .sign =>
      match relations.lookup s with
      | some r => if strength ≤ 7 then next 8 fun f => pure (.relation r e f) else return e
      | none =>
        match s with
        | "~" | "!~" =>
          if strength ≤ 6 then next 7 fun f => do return .found (s = "!~") e (← asPattern f)
          else return e
        | "&&" => if strength ≤ 4 then next 5 fun f => pure (.both e f) else return e
        | "||" => if strength ≤ 3 then next 4 fun f => pure (.either e f) else return e
        | "?" =>
          if strength ≤ 2 then next 1 fun f => do
            expect ":"
            let g ← sub (.expr 2)
            settle [g]
            return .choice e f g
          else return e
        | _ => return e
    | _ => return e

/-- Reads an expression behind its first operand. -/
def exprBehind (sub : Sub) (strength : Nat) (first : Operand) : Parse Expr := do
  match first with
  | .row _ => fail
  | .plain e => operators sub strength mostOperators (← joined sub mostOperators e)
  | .place e => do
    let t ← peek
    match t.kind, assignments.lookup (String.ofList t.shown), t.shown with
    | .sign, none, ['='] => do
      discard take
      let v ← sub (.expr 1)
      settle [e, v]
      return .assign e v
    | .sign, some o, _ => do
      discard take
      let v ← sub (.expr 1)
      settle [e, v]
      return .change o e v
    | _, _, _ => operators sub strength mostOperators (← joined sub mostOperators e)

/-- Reads an expression. -/
def expr (sub : Sub) (strength : Nat) : Parse Expr := do
  exprBehind sub strength (← sub (.operand 9))

/-- Reads where output goes, if it is told. -/
def sink? (sub : Sub) : Parse (Option (SinkKind × Expr)) := do
  match (← peek).kind with
  | .output k => do
    discard take
    return some (k, ← sub (.expr 1))
  | _ => return none

/-- Reads what is printed. -/
def printed (sub : Sub) : Parse (List Expr) := do
  let more (e : Expr) : Parse (List Expr) := do
    if ← isNext "," then do
      discard take
      return e :: (← exprs sub mostExprs)
    else return [e]
  match (← peek).kind with
  | .output _ => return []
  | _ =>
    if ← isEnd then return []
    else if ← isNext "(" then do
      discard take
      if ← isNext ")" then do
        discard take
        return []
      else
        match ← parenthesized sub with
        | .row es => return es
        | o => more (← exprBehind sub 1 (← operations sub 9 mostOperators o))
    else more (← sub (.expr 1))

/-- Reads a statement that prints. -/
def print (sub : Sub) (isFormat : Bool) : Parse Statement := do
  let es ← printed sub
  settle es
  if isFormat && es = [] then complainHere (say "no arguments in call to printf")
  let sink ← sink? sub
  modify fun d => { d with printing := false }
  endStatement
  return if isFormat then .printf es sink else .print es sink

end Parse

end Scan
end Shell
end IconAssets
