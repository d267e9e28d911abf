import IconAssets.Shell.Scan.Matcher
import IconAssets.Shell.Scan.Program

/-!
# Tokens of scanning programs

Tokens are read as they are asked for, since what some of them are hangs on what is being read: a
sign that compares may lead output to a file, and a name may be that of a function.  A semicolon is
implied in front of a brace that closes, and newlines are skipped where a line cannot end.
-/

namespace IconAssets
namespace Shell
namespace Scan

/-- The kind of a token. -/
inductive Kind where
  | number (x : Quantity)
  | text
  | regex (t : Text)
  | field (n : Nat)
  | fieldCount
  /-- The name of a variable. -/
  | name
  /-- The name of a function of the program. -/
  | called
  | builtin (b : Builtin)
  | word
  | sign
  /-- A sign that leads output somewhere. -/
  | output (k : SinkKind)
  /-- A sign in front of a file that is read. -/
  | source
  | newline
  /-- A semicolon that is not written. -/
  | implied
  | finish
  /-- A character that means nothing. -/
  | odd (c : Char)

/-- A token, with how it is told. -/
structure Token where
  kind : Kind
  shown : Text

/-- What a variable is known to be. -/
inductive Role where
  | unknown
  | scalar
  | table
  deriving DecidableEq

/-- Where in a program something stands. -/
inductive Section where
  | before
  | rules
  | after
  | function
  deriving DecidableEq

/-- A function that has been named: its body if it has been read, and what its parameters are known
to be. -/
structure FunctionDraft where
  name : Text
  body : Option Function
  roles : Array Role

/-- A variable in a call: one of the whole program, or a parameter of a function, each by its
number. -/
inductive Passed where
  | shared (k : Nat)
  | parameter (function k : Nat)

/-- A call of a function by its number. -/
structure CallDraft where
  function : Nat
  line : Nat
  /-- The number of arguments. -/
  count : Nat
  /-- The arguments that are variables nothing is known of, each with its number. -/
  open_ : List (Nat × Passed)

/-- The reading of a program. -/
structure Desk where
  /-- The name for complaints. -/
  program : Text
  /-- The files of the program with the numbers of their lines. -/
  files : List (Text × Nat)
  rest : Text
  line : Nat
  /-- The last token. -/
  last : Token
  /-- The line of the last token. -/
  tokenLine : Nat
  /-- The next token if it has been looked at. -/
  ahead : Option Token
  parens : Nat
  braces : Nat
  /-- Whether a sign may lead output somewhere. -/
  printing : Bool
  /-- Whether a sign may stand in front of a file that is read. -/
  getting : Bool
  complaints : List Text
  shared : Array (Text × Role)
  own : Array (Text × Role)
  functions : Array FunctionDraft
  /-- The calls so far, the last one first. -/
  calls : List CallDraft
  place : Section
  /-- The number of the function that is read. -/
  inside : Nat
  loops : Nat

/-- Why the reading stops. -/
inductive Stuck where
  /-- The text is no program here, but it may go on. -/
  | misread
  | stopped

/-- A step of the reading. -/
abbrev Parse := EStateM Stuck Desk

/-- The functions of the language with their least and greatest numbers of arguments. -/
def builtins : List (String × Builtin × Nat × Nat) :=
  [("index", .index, 2, 2), ("substr", .substr, 2, 3), ("sprintf", .sprintf, 1, 255),
    ("sin", .sin, 1, 1), ("cos", .cos, 1, 1), ("atan2", .atan2, 2, 2), ("exp", .exp, 1, 1),
    ("log", .log, 1, 1), ("int", .int, 1, 1), ("sqrt", .sqrt, 1, 1), ("rand", .rand, 0, 0),
    ("srand", .srand, 0, 1), ("close", .close, 1, 1), ("system", .system, 1, 1),
    ("toupper", .toupper, 1, 1), ("tolower", .tolower, 1, 1), ("fflush", .fflush, 0, 1),
    ("mktime", .mktime, 1, 2), ("strftime", .strftime, 0, 3), ("systime", .systime, 0, 0)]

/-- The words of the language. -/
def words : List String :=
  ["print", "printf", "delete", "if", "else", "while", "for", "do", "break", "continue", "exit",
    "next", "nextfile", "return", "in", "BEGIN", "END", "function", "getline", "length", "split",
    "sub", "gsub", "match"]

/-- The signs of the language, longer ones before their starts. -/
def signs : List String :=
  ["++", "--", "+=", "-=", "*=", "/=", "%=", "^=", "==", "!=", "!~", "<=", ">=", "&&", "||", "+",
    "-", "*", "/", "%", "^", "=", "!", "<", ">", "|", "~", "?", ":", ",", "[", "]", "(", ")", "$"]

namespace Desk

/-- The most complaints about a program. -/
def mostComplaints : Nat := 5

/-- The place of a line for complaints. -/
def placeOf (d : Desk) (line : Nat) : Text := among line d.files
where
  /-- The place of a line of some files, one behind the other. -/
  among (line : Nat) : List (Text × Nat) → Text
    | [] => say "line " ++ Text.ofNat line
    | (name, lines) :: more =>
      if line ≤ lines || more = [] then name ++ say ": line " ++ Text.ofNat line
      else among (line - lines) more

/-- The text without blanks, comments and joined lines at its start, and the number of lines. -/
def skipped (newlines : Bool) : Nat → Text → Nat → Text × Nat
  | 0, t, line => (t, line)
  | fuel + 1, t, line =>
    match t with
    | '\\' :: '\n' :: u => skipped newlines fuel u (line + 1)
    | '\\' :: '\r' :: '\n' :: u => skipped newlines fuel u (line + 1)
    | '#' :: u => skipped newlines fuel (u.dropWhile (· ≠ '\n')) line
    | c :: u =>
      if isGap c then skipped newlines fuel u line
      else if newlines && c = '\n' then skipped newlines fuel u (line + 1)
      else (t, line)
    | [] => ([], line)

/-- Skips blanks. -/
def skip (d : Desk) (newlines : Bool) : Desk :=
  let (rest, line) := skipped newlines (d.rest.length + 1) d.rest d.line
  { d with rest, line }

/-- The last token is a sign. -/
def endsWith (d : Desk) (signs : List String) : Bool :=
  match d.last.kind with
  | .sign => signs.any fun s => s.toList = d.last.shown
  | _ => false

/-- Whether a slash divides, since an operand is in front of it. -/
def divides (d : Desk) : Bool :=
  match d.last.kind with
  | .number _ | .text | .name | .regex _ | .field _ | .fieldCount => true
  | .word => d.last.shown ∈ ["getline".toList, "length".toList]
  | .sign => d.endsWith [")", "]", "++", "--"]
  | _ => false

/-- Whether the last token ends a statement. -/
def isEnded (d : Desk) : Bool :=
  match d.last.kind with
  | .newline | .implied => true
  | .sign => d.endsWith [";", "\x7d"]
  | _ => false

end Desk

/-- The value of a text between quotation marks. -/
def unquoted : Nat → Text → Text
  | 0, _ | _, [] => []
  | fuel + 1, c :: t =>
    if c ≠ '\\' then c :: unquoted fuel t
    else
      match t with
      | [] => [c]
      | '\n' :: u => unquoted fuel u
      | d :: u =>
        let octal := (t.take 3).takeWhile isOctalDigit
        let hexadecimal := (u.take 2).takeWhile (Quantity.isDigitIn 16)
        if octal ≠ [] then
          Char.ofNat ((digitsAt 8 0 octal).1 % 256) :: unquoted fuel (t.drop octal.length)
        else if d = 'x' && hexadecimal ≠ [] then
          Char.ofNat (Quantity.ofDigits 16 hexadecimal) ::
            unquoted fuel (u.drop hexadecimal.length)
        else if d = '"' then d :: unquoted fuel u
        else
          match control? d with
          | some e => e :: unquoted fuel u
          | none => c :: d :: unquoted fuel u

/-- What stands up to a quotation mark, and what follows; none if a line ends first. -/
def quotation? : Nat → Text → Option (Text × Text)
  | 0, _ | _, [] => none
  | fuel + 1, c :: t =>
    if c = '"' then some ([], t)
    else if c = '\n' then none
    else if c = '\\' then
      (quotation? fuel (t.drop 1)).map fun r => (c :: t.take 1 ++ r.1, r.2)
    else (quotation? fuel t).map fun r => (c :: r.1, r.2)

/-- An expression up to a slash, and what follows, with whether there is a slash; `boxed` tells
whether the text is inside a set. -/
def slashed : Nat → Bool → Text → Text × Option Text
  | 0, _, _ | _, _, [] => ([], none)
  | fuel + 1, boxed, c :: t =>
    let onto (front : Text) (r : Text × Option Text) : Text × Option Text := (front ++ r.1, r.2)
    if c = '/' && !boxed then ([], some t)
    else if c = '\n' then ([], none)
    else if c = '\\' then
      match t with
      | '/' :: u => onto ['/'] (slashed fuel boxed u)
      | '\n' :: u => slashed fuel boxed u
      | d :: u => onto [c, d] (slashed fuel boxed u)
      | [] => ([c], none)
    else if c = '[' && !boxed then
      let opening := t.takeWhile (· = '^') |>.take 1
      let opening := opening ++ (t.drop opening.length).take 1 |>.filter (· ∈ ['^', ']'])
      onto (c :: opening) (slashed fuel true (t.drop opening.length))
    else if c = '[' && t.head? = some ':' then
      let name := t.tail.takeWhile Char.isAlpha
      if (t.drop (name.length + 1)).take 2 = [':', ']'] then
        onto (c :: t.take (name.length + 3)) (slashed fuel boxed (t.drop (name.length + 3)))
      else onto [c] (slashed fuel boxed t)
    else if c = ']' then onto [c] (slashed fuel false t)
    else onto [c] (slashed fuel boxed t)

/-- The decimal number at the start of a text, and what follows. -/
def decimal (t : Text) : Text × Text :=
  let whole := t.takeWhile Char.isDigit
  let rest := t.drop whole.length
  let (mantissa, rest) := match rest with
    | '.' :: u =>
      let digits := u.takeWhile Char.isDigit
      (whole ++ '.' :: digits, u.drop digits.length)
    | _ => (whole, rest)
  match rest with
  | c :: u =>
    if c = 'e' || c = 'E' then
      let sign := (u.take 1).filter fun c => c = '+' || c = '-'
      let digits := (u.drop sign.length).takeWhile Char.isDigit
      if digits = [] then (mantissa, rest)
      else (mantissa ++ c :: sign ++ digits, u.drop (sign.length + digits.length))
    else (mantissa, rest)
  | [] => (mantissa, [])

namespace Parse

/-- Complains; too many complaints end the reading. -/
def complain (message : Text) : Parse Unit := do
  let d ← get
  set { d with complaints := (d.program ++ say ": " ++ message ++ ['\n']) :: d.complaints }
  if Desk.mostComplaints ≤ d.complaints.length + 1 then throw .stopped

/-- Complains about the line of the last token. -/
def complainHere (message : Text) : Parse Unit := do
  let d ← get
  complain (d.placeOf d.tokenLine ++ say ": " ++ message)

/-- Makes the end of what has been read a token. -/
def finishToken (kind : Kind) (shown rest : Text) : Parse Token := do
  modify fun d => { d with rest, last := ⟨kind, shown⟩ }
  return ⟨kind, shown⟩

/-- Takes a text in front of which a token has been read. -/
def eatNewlines : Parse Unit := modify (·.skip true)

/-- The token of a name. -/
def nameToken (name rest : Text) : Parse Token := do
  let d ← get
  let s := String.ofList name
  if (d.own.any fun v => v.1 = name) || (d.shared.any fun v => v.1 = name) then
    finishToken .name name rest
  else if s = "NF" then finishToken .fieldCount ['$'] rest
  else if s ∈ words then finishToken .word name rest
  else
    match builtins.lookup s with
    | some b => finishToken (.builtin b.1) name rest
    | none =>
      if d.functions.any fun f => f.name = name then finishToken .called name rest
      else if rest.head? = some '(' then do
        set { d with functions := d.functions.push ⟨name, none, #[]⟩ }
        finishToken .called name rest
      else finishToken .name name rest

/-- The token of a sign. -/
def signToken (t : Text) : Parse Token := do
  let d ← get
  let leads := d.printing && d.parens = 0
  match signs.find? fun s => s.toList.isPrefixOf t with
  | none => finishToken (.odd (t.headD ' ')) (t.take 1) (t.drop 1)
  | some s =>
    let rest := t.drop s.length
    let plain : Parse Token := finishToken .sign s.toList rest
    if leads && t.head? = some '>' then do
      set { d with printing := false }
      let (k, n) : SinkKind × Nat :=
        if (t.drop 1).head? = some '>' then (.addition, 2) else (.file, 1)
      finishToken (.output k) (t.take n) (t.drop n)
    else if leads && s = "|" then do
      set { d with printing := false }
      finishToken (.output .command) ['|'] rest
    else if d.getting && s = "<" then do
      set { d with getting := false }
      finishToken .source ['<'] rest
    else if s ∈ ["&&", "||", ","] then do
      let token ← plain
      eatNewlines
      return token
    else if s = "(" then do
      set { d with parens := d.parens + 1 }
      plain
    else if s = ")" then do
      set { d with parens := d.parens - 1 }
      plain
    else if s = "$" then
      let (gapless, _) := Desk.skipped false (rest.length + 1) rest d.line
      if gapless.head?.any fun c => c.isDigit || c = '.' then do
        let (number, rest) := decimal gapless
        let x := leadingNumber number
        if x.toInt?.isNone then
          complainHere ('$' :: number ++ say " is invalid field index")
        finishToken (.field (x.clamped 0 (halfBound - 1)).toNat) ['$'] rest
      else plain
    else plain

/-- Reads the next token; each call skips a bracket that closes nothing. -/
def lex : Nat → Parse Token
  | 0 => throw .stopped
  | fuel + 1 => do
    modify (·.skip false)
    modify fun d => { d with tokenLine := d.line }
    let d ← get
    match d.rest with
    | [] => finishToken .finish (say "end of file") []
    | '\n' :: rest => do
      set { d with rest, line := d.line + 1, last := ⟨.newline, say "end of line"⟩ }
      eatNewlines
      return ⟨.newline, say "end of line"⟩
    | ';' :: rest => do
      let token ← finishToken .sign [';'] rest
      eatNewlines
      return token
    | '\x7b' :: rest => do
      set { d with braces := d.braces + 1 }
      let token ← finishToken .sign ['\x7b'] rest
      eatNewlines
      return token
    | '\x7d' :: rest =>
      if d.braces = 0 then do
        set { d with rest }
        complainHere (say "extra '\x7d'")
        lex fuel
      else if !d.isEnded then finishToken .implied ['\x7d'] d.rest
      else do
        set { d with braces := d.braces - 1 }
        let token ← finishToken .sign ['\x7d'] rest
        if d.braces = 1 then do
          modify (·.skip false)
          modify fun d => if d.rest.head? = some ';' then { d with rest := d.rest.tail } else d
        eatNewlines
        return token
    | '"' :: t =>
      match quotation? (t.length + 1) t with
      | some (raw, rest) => do
        set { d with line := d.line + raw.count '\n' }
        finishToken .text (unquoted (raw.length + 1) raw) rest
      | none => do
        complainHere (say "runaway string constant " ++ '"' :: (t.takeWhile (· ≠ '\n')).take 10 ++
          say " ...")
        throw .stopped
    | c :: t =>
      if c = ')' && d.parens = 0 then do
        set { d with rest := t }
        complainHere (say "extra ')'")
        lex fuel
      else if c = '/' && !d.divides then
        match slashed (t.length + 1) false t with
        | (r, some rest) => finishToken (.regex r) ('/' :: r ++ ['/']) rest
        | (r, none) => do
          complainHere (say "runaway regular expression /" ++ r.take 10 ++ say " ...")
          throw .stopped
      else if c.isDigit || (c = '.' && t.head?.any Char.isDigit) then
        let (number, rest) := decimal d.rest
        finishToken (.number (leadingNumber number)) number rest
      else if c.isAlpha || c = '_' then
        let name := d.rest.takeWhile fun c => c.isAlphanum || c = '_'
        nameToken name (d.rest.drop name.length)
      else signToken d.rest

/-- The next token, which stays. -/
def peek : Parse Token := do
  match (← get).ahead with
  | some t => return t
  | none => do
    let t ← lex ((← get).rest.length + 2)
    modify fun d => { d with ahead := some t }
    return t

/-- Takes the next token. -/
def take : Parse Token := do
  let t ← peek
  modify fun d => { d with ahead := none }
  return t

/-- Complains about the next token and gives up the statement. -/
def fail {α : Type} : Parse α := do
  let t ← peek
  let d ← get
  let missing (bracket : String) : Text := say ("missing " ++ bracket ++ " near ") ++ t.shown
  let endsLine := match t.kind with
    | .newline | .implied => true
    | .sign => t.shown = [';']
    | _ => false
  let endsProgram := match t.kind with
    | .finish => true
    | .word => t.shown ∈ ["BEGIN".toList, "END".toList]
    | _ => false
  match t.kind with
  | .odd c =>
    complain (Text.ofNat d.tokenLine ++ say ": unexpected character " ++
      (if '!' ≤ c && c ≤ '~' then ['\'', c, '\'']
        else '0' :: 'x' :: Quantity.zeros 2 (Nat.toDigits 16 c.toNat)))
  | _ =>
    if endsLine && d.parens ≠ 0 then do
      set { d with parens := 0 }
      complainHere (missing ")")
    else if endsProgram && d.braces ≠ 0 then do
      set { d with braces := 0 }
      complainHere (missing "\x7d")
    else complainHere (say "syntax error at or near " ++ t.shown)
  throw .misread

/-- Whether the next token is a certain sign. -/
def isNext (s : String) : Parse Bool := do
  let t ← peek
  match t.kind with
  | .sign => return t.shown = s.toList
  | _ => return false

/-- Whether the next token is a certain word. -/
def isWord (s : String) : Parse Bool := do
  let t ← peek
  match t.kind with
  | .word => return t.shown = s.toList
  | _ => return false

/-- Takes a sign. -/
def expect (s : String) : Parse Unit := do
  if ← isNext s then discard take else fail

/-- Whether the next token ends a statement. -/
def isEnd : Parse Bool := do
  match (← peek).kind with
  | .newline | .implied => return true
  | _ => isNext ";"

/-- Takes the end of a statement. -/
def endStatement : Parse Unit := do
  if ← isEnd then discard take else fail

end Parse

end Scan
end Shell
end IconAssets
