import IconAssets.Shell.Scan.Reader

/-!
# Reading statements and rules

A statement ends with its line, with a semicolon, or in front of a brace.  A rule without a body
prints the record.  A program that has been read has no faults; each fault has a complaint of its
own.
-/

namespace IconAssets
namespace Shell
namespace Scan
namespace Parse

/-- A statement that does nothing. -/
def nothing : Statement := .block []

/-- Goes on behind the next end of a statement; each call skips a token. -/
def recover : Nat → Parse Unit
  | 0 => throw .stopped
  | fuel + 1 => do
    match (← peek).kind with
    | .finish => throw .stopped
    | _ =>
      if ← isEnd then do
        discard take
        modify fun d => { d with parens := 0, printing := false, getting := false }
      else do
        discard take
        recover fuel

/-- Goes on behind a statement with a fault. -/
def recovering (body : Parse Statement) : Parse Statement :=
  tryCatch body fun
    | .stopped => throw .stopped
    | .misread => do
      recover ((← get).rest.length + 10)
      return nothing

/-- Reads statements up to a closing brace; each call reads one. -/
def statements (sub : Sub) : Nat → Parse (List Statement)
  | 0 => throw .stopped
  | fuel + 1 => do
    if ← isNext "\x7d" then do
      discard take
      return []
    else do
      let s ← sub .statement
      return s :: (← statements sub fuel)

/-- The most statements in a block. -/
def mostStatements : Nat := 100000

/-- Reads the body of a loop. -/
def loopBody (sub : Sub) : Parse Statement := do
  eatNewlines
  modify fun d => { d with loops := d.loops + 1 }
  let s ← sub .statement
  modify fun d => { d with loops := d.loops - 1 }
  return s

/-- Reads a test in parentheses. -/
def test (sub : Sub) : Parse Expr := do
  expect "("
  let e ← sub (.expr 1)
  settle [e]
  expect ")"
  return e

/-- Reads an expression up to a sign, unless the sign comes next. -/
def exprBefore (sub : Sub) (sign : String) : Parse (Option Expr) := do
  if ← isNext sign then do
    discard take
    return none
  else do
    let e ← sub (.expr 1)
    expect sign
    return some e

/-- Reads a loop that counts or goes through a table. -/
def forLoop (sub : Sub) : Parse Statement := do
  expect "("
  if ← isNext ";" then do
    discard take
    counting none
  else do
    let e ← sub (.expr 1)
    match e, ← isNext ")" with
    | .holds [.variable key] t, isClosed => do
      if !isClosed then fail
      discard take
      return .forKeys key t (← loopBody sub)
    | e, _ => do
      expect ";"
      counting (some e)
where
  /-- Goes on behind what is done first. -/
  counting (first : Option Expr) : Parse Statement := do
    let test ← exprBefore sub ";"
    let step ← exprBefore sub ")"
    let body ← loopBody sub
    let loop : Statement := .loop test true step body
    return match first with
      | some e => .block [.value e, loop]
      | none => loop

/-- Reads the test behind the body of a loop; after a fault the body is read again. -/
def loopEnd (sub : Sub) : Nat → Statement → Parse Statement
  | 0, _ => throw .stopped
  | fuel + 1, body => do
    let r ← tryCatch (do
        if ← isWord "while" then do
          discard take
          let e ← test sub
          endStatement
          return some (Statement.loop (some e) false none body)
        else fail) fun
      | .stopped => throw .stopped
      | .misread => do
        recover ((← get).rest.length + 10)
        return none
    match r with
    | some s => return s
    | none => loopEnd sub fuel body

/-- Reads an expression that may be left out at the end of a statement. -/
def optionalExpr (sub : Sub) : Parse (Option Expr) := do
  if ← isEnd then do
    discard take
    return none
  else do
    let e ← sub (.expr 1)
    settle [e]
    endStatement
    return some e

/-- Ends a statement that is refused in some places. -/
def restricted (s : Statement) (allowed : Desk → Bool) (message : String) : Parse Statement := do
  endStatement
  if !allowed (← get) then complainHere (say message)
  return s

/-- Reads what follows a word that starts a statement. -/
def wordStatement (sub : Sub) (word : String) : Parse Statement := do
  let inRules (d : Desk) : Bool := d.place = .rules || d.place = .function
  match word with
  | "if" => do
    let e ← test sub
    eatNewlines
    let yes ← sub .statement
    if ← isWord "else" then do
      discard take
      eatNewlines
      return .branch e yes (← sub .statement)
    else return .branch e yes nothing
  | "while" => do
    let e ← test sub
    return .loop (some e) true none (← loopBody sub)
  | "do" => loopEnd sub mostStatements (← loopBody sub)
  | "for" => forLoop sub
  | "print" => do
    modify fun d => { d with printing := true }
    print sub false
  | "printf" => do
    modify fun d => { d with printing := true }
    print sub true
  | "break" => restricted .leave (fun d => 0 < d.loops) "break statement outside of loop"
  | "continue" => restricted .again (fun d => 0 < d.loops) "continue statement outside of loop"
  | "next" => restricted .nextRecord inRules "improper use of next"
  | "nextfile" => restricted .nextFile inRules "improper use of nextfile"
  | "exit" => return .exit (← optionalExpr sub)
  | "return" => do
    if (← get).place ≠ .function then complainHere (say "return outside function body")
    return .back (← optionalExpr sub)
  | "delete" => do
    let t ← table
    if ← isNext "[" then do
      discard take
      let key ← exprs sub mostExprs
      settle key
      expect "]"
      endStatement
      return .delete t key
    else do
      endStatement
      return .delete t []
  | _ => fail

/-- The words that start statements. -/
def statementWords : List Text :=
  ["if", "while", "do", "for", "print", "printf", "break", "continue", "next", "nextfile", "exit",
    "return", "delete"].map String.toList

/-- Reads a statement. -/
def statement (sub : Sub) : Parse Statement := recovering do
  let t ← peek
  match t.kind with
  | .newline | .implied => do
    discard take
    return nothing
  | .word =>
    if t.shown ∈ statementWords then do
      discard take
      wordStatement sub (String.ofList t.shown)
    else expression
  | .sign =>
    if t.shown = [';'] then do
      discard take
      return nothing
    else if t.shown = ['\x7b'] then do
      discard take
      return .block (← statements sub mostStatements)
    else expression
  | _ => expression
where
  /-- Reads an expression as a statement. -/
  expression : Parse Statement := do
    let e ← sub (.expr 1)
    settle [e]
    endStatement
    return .value e

/-- Reads a part by means that read its parts. -/
def part (sub : Sub) : {α : Type} → Part α → Parse α
  | _, .expr strength => expr sub strength
  | _, .operand strength => operand sub strength
  | _, .statement => statement sub

/-- Reads a part whose parts are nested no deeper than given. -/
def within : Nat → {α : Type} → Part α → Parse α
  | 0, _, _ => throw .stopped
  | depth + 1, _, p => part (within depth) p

/-- How deep parts of a program may be nested. -/
def mostDepth : Nat := 3000

/-- Reads a block. -/
def block : Parse Statement := do
  expect "\x7b"
  return .block (← statements (within mostDepth) mostStatements)

/-- Reads a part of an expression at the start of a rule. -/
def condition : Parse Expr := do
  let e ← within mostDepth (.expr 1)
  settle [e]
  return e

/-- What a rule without a body does. -/
def printRecord : Statement := .print [] none

/-- Reads the names of parameters behind an opening parenthesis; each call reads one. -/
def parameters (function : Text) : Nat → Parse Unit
  | 0 => throw .stopped
  | fuel + 1 => do
    let t ← peek
    match t.kind with
    | .name | .called => do
      if t.shown = function then do
        complainHere (say "function parameter cannot be the function")
        fail
      discard take
      if (← get).own.any fun v => v.1 = t.shown then
        complainHere (t.shown ++ say " is duplicated in argument list")
      modify fun d => { d with own := d.own.push (t.shown, .unknown) }
      if ← isNext "," then do
        discard take
        parameters function fuel
      else expect ")"
    | _ => fail

/-- Reads a function. -/
def function : Parse Unit := do
  let t ← peek
  match t.kind with
  | .name | .called => do
    discard take
    let d ← get
    let k := (d.functions.findIdx? fun f => f.name = t.shown).getD d.functions.size
    if (d.functions[k]?.any fun f => f.body.isSome) then
      complainHere (say "redefinition of " ++ t.shown)
    else
      set { d with functions :=
        if k < d.functions.size then d.functions else d.functions.push ⟨t.shown, none, #[]⟩ }
    expect "("
    if ← isNext ")" then discard take else parameters t.shown mostExprs
    eatNewlines
    let count := (← get).own.size
    let withBody (s : Statement) (d : Desk) : Array FunctionDraft :=
      d.functions.setIfInBounds k ⟨t.shown, some ⟨count, s⟩, d.own.map (·.2)⟩
    modify fun d =>
      let roles := (d.functions[k]?.map (·.roles)).getD #[]
      let own := d.own.mapIdx fun i v => (v.1, roles[i]?.getD .unknown)
      { d with place := .function, inside := k, own }
    let body ← block
    modify fun d => { d with functions := withBody body d, own := #[], place := .rules }
  | _ => fail

/-- Skips what stands in front of the next block, and the block. -/
def skipToBlock : Nat → Parse Unit
  | 0 => throw .stopped
  | fuel + 1 => do
    match (← peek).kind with
    | .finish => throw .stopped
    | _ =>
      if ← isNext "\x7b" then discard block
      else do
        discard take
        skipToBlock fuel

/-- Reads a rule, or what takes its place, into a program. -/
def rule (p : Program) : Parse Program := do
  if ← isWord "BEGIN" then do
    discard take
    modify fun d => { d with place := .before }
    let s ← block
    return { p with before := p.before ++ [s] }
  else if ← isWord "END" then do
    discard take
    modify fun d => { d with place := .after }
    let s ← block
    return { p with after := p.after ++ [s] }
  else if ← isWord "function" then do
    discard take
    function
    return p
  else do
    modify fun d => { d with place := .rules }
    let condition : Condition ← if ← isNext "\x7b" then pure .always
      else do
        let e ← condition
        if ← isNext "," then do
          discard take
          pure (.range e (← condition))
        else pure (.holds e)
    let body ← if ← isNext "\x7b" then block
      else do
        endStatement
        pure printRecord
    return { p with rules := p.rules ++ [⟨condition, body⟩] }

/-- Reads rules up to the end; each call reads one. -/
def rules : Nat → Program → Parse Program
  | 0, _ => throw .stopped
  | fuel + 1, p => do
    match (← peek).kind with
    | .finish => return p
    | _ => do
      let p ← tryCatch (rule p) fun
        | .stopped => throw .stopped
        | .misread => do
          modify fun d => { d with own := #[], loops := 0, place := .rules, printing := false,
                                   getting := false }
          skipToBlock ((← get).rest.length + 10)
          return p
      rules fuel p

/-- Compares an argument nothing was known of with the parameter. -/
def settleArgument (c : CallDraft) (number : Nat) (v : Passed) : Parse Unit := do
  let d ← get
  match d.functions[c.function]? with
  | none => pure ()
  | some f => do
    let actual := match v with
      | .shared k => (d.shared[k]?.map (·.2)).getD .unknown
      | .parameter g k => ((d.functions[g]?.bind fun g => g.roles[k]?)).getD .unknown
    let known := f.roles[number]?.getD .unknown
    if !known.admits actual then mismatch c.line (number + 1) f.name actual

/-- Looks at the calls of all functions. -/
def checkCalls : Parse Unit := do
  let d ← get
  for f in d.functions do
    if f.body.isNone then complainHere (say "function " ++ f.name ++ say " never defined")
  for c in d.calls.reverse do
    match d.functions[c.function]? with
    | some ⟨name, some f, _⟩ => do
      if f.parameters < c.count then
        complain (d.placeOf c.line ++ say ": too many arguments in call to " ++ name)
      for (number, v) in c.open_ do
        settleArgument c number v
    | _ => pure ()

/-- Reads a program. -/
def program : Parse Program := do
  eatNewlines
  let p ← rules ((← get).rest.length + 1) ⟨[], [], [], #[], []⟩
  let d ← get
  if d.complaints = [] then checkCalls
  return { p with
    functions := d.functions.map fun f => f.body.getD ⟨0, nothing⟩
    names := (d.shared.map (·.1)).toList }

end Parse

/-- The program that texts from files spell, or the complaints about them. -/
def Program.ofTexts (name : Text) (texts : List (Option Text × Text)) : Except (List Text) Program :=
  let text := texts.flatMap fun t => t.2 ++ ['\n']
  let files := texts.filterMap fun t => t.1.map fun name => (name, t.2.count '\n' + 1)
  let isTable (n : Text) : Bool := n ∈ ["ARGV".toList, "ENVIRON".toList]
  let start : Desk :=
    { program := name, files, rest := text, line := 1, last := ⟨.newline, []⟩, tokenLine := 1,
      ahead := none, parens := 0, braces := 0, printing := false, getting := false, complaints := [],
      shared := (specialNames.map fun n => (n, if isTable n then Role.table else .scalar)).toArray,
      own := #[], functions := #[], calls := [], place := .rules, inside := 0, loops := 0 }
  match Parse.program.run start with
  | .ok p d => if d.complaints = [] then .ok p else .error d.complaints.reverse
  | .error _ d => .error d.complaints.reverse

end Scan
end Shell
end IconAssets
