import IconAssets.Shell.Edit.Script

/-!
# Reading editing scripts

A script comes in chunks: arguments and files.  Complaints tell the chunk and the place in it where
reading has stopped.  A block and the text of a command may go on in the next chunk.
-/

namespace IconAssets
namespace Shell
namespace Edit

/-- Where a chunk of a script comes from. -/
inductive Origin where
  | expression (number : Nat)
  | file (name : Text)

/-- Which command a text belongs to. -/
inductive TextKind where
  | append
  | insert
  | change

/-- A text as the action of its command. -/
def TextKind.action (k : TextKind) (t : Text) : Action :=
  match k with
  | .append => .append t
  | .insert => .insert t
  | .change => .change t

/-- A script that is being read. -/
structure Draft where
  origin : Origin
  rest : Text
  /-- The number of characters of the chunk that have been read, and of its lines. -/
  taken : Nat
  line : Nat
  commands : Array Command
  /-- The open blocks, with where they have been opened. -/
  blocks : List (Nat × Origin × Nat)
  labels : List (Text × Nat)
  jumps : List Text
  files : List Text
  /-- A text that goes on in the next chunk. -/
  pending : Option (Selector × TextKind × Text)
  silent : Bool

/-- What is wrong with a script, and the status that tells it. -/
structure Complaint where
  status : Nat
  message : Text

/-- What reads a part of a script, or complains. -/
abbrev Read := StateT Draft (Except Complaint)

/-- What stands in front of a complaint. -/
def Origin.place (o : Origin) (taken line : Nat) : Text :=
  match o with
  | .expression n =>
    say "-e expression #" ++ Text.ofNat n ++ say ", char " ++ Text.ofNat taken ++ say ": "
  | .file name => say "file " ++ name ++ say " line " ++ Text.ofNat line ++ say ": "

namespace Read

/-- Complains. -/
def fail {α : Type} (message : String) : Read α := do
  let d ← get
  throw ⟨1, d.origin.place d.taken d.line ++ say message⟩

/-- The next character, if there is one. -/
def char? : Read (Option Char) := do
  let d ← get
  match d.rest with
  | [] => return none
  | c :: t =>
    set { d with rest := t, taken := d.taken + 1, line := if c = '\n' then d.line + 1 else d.line }
    return some c

/-- The next character, which is not taken. -/
def peek : Read (Option Char) := do return (← get).rest.head?

/-- Takes so many characters. -/
def skip (n : Nat) : Read Unit := modify fun d =>
  { d with
    rest := d.rest.drop n
    taken := d.taken + (d.rest.take n).length
    line := d.line + ((d.rest.take n).filter (· = '\n')).length }

/-- Takes the characters of a kind. -/
def takeWhile (p : Char → Bool) : Read Text := do
  let t := (← get).rest.takeWhile p
  skip t.length
  return t

/-- Whether a character is a blank. -/
def isBlank (c : Char) : Bool := c = ' ' || c = '\t'

/-- Whether a character is a blank or an end of a line. -/
def isSpace (c : Char) : Bool := c = ' ' || ('\t' ≤ c && c ≤ '\r')

/-- Takes blanks. -/
def skipBlanks : Read Unit := do
  let _ ← takeWhile isBlank
  return

/-- A number at this place. -/
def number : Read Nat := do return ((digits? (← takeWhile Char.isDigit)).getD 0)

/-- Takes the end of a command. -/
def finish : Read Unit := do
  skipBlanks
  match ← peek with
  | none | some '\x7d' | some '#' => return
  | some c =>
    skip 1
    if c = '\n' || c = ';' then return else fail "extra characters after command"

/-- A label at this place. -/
def label : Read Text := do
  skipBlanks
  takeWhile fun c => !isSpace c && c ≠ ';' && c ≠ '\x7d'

/-- The name of a file at this place. -/
def file : Read Text := do
  skipBlanks
  let t ← takeWhile (· ≠ '\n')
  skip 1
  if t = [] then fail "missing filename in r/R/w/W commands" else return t

end Read

open Read

/-- The control character that a letter behind a backslash stands for. -/
def controlOf? (c : Char) : Option Char :=
  [('a', '\x07'), ('f', '\x0c'), ('n', '\n'), ('r', '\r'), ('t', '\t'), ('v', '\x0b')].lookup c

/-- The character that is written as a number or as a control character behind a backslash, and what
follows. -/
def coded? (t : Text) : Option (Char × Text) :=
  let numbered (base most : Nat) (t : Text) : Option (Char × Text) :=
    let digits := (t.take most).takeWhile fun c => (hexDigit? c).any (· < base)
    if digits = [] then none
    else
      let value := digits.foldl (fun n c => n * base + (hexDigit? c).getD 0) 0
      some (Char.ofNat (value % 256), t.drop digits.length)
  match t with
  | 'x' :: t => numbered 16 2 t
  | 'd' :: t => numbered 10 3 t
  | 'o' :: t => numbered 8 3 t
  | 'c' :: c :: t => some (Char.ofNat (Nat.xor c.toUpper.toNat 64), t)
  | c :: t => if c = 'n' then none else (controlOf? c).map fun x => (x, t)
  | [] => none
where
  /-- The value of a digit. -/
  hexDigit? (c : Char) : Option Nat :=
    if c.isDigit then some (c.toNat - 48)
    else if 'a' ≤ c.toLower && c.toLower ≤ 'f' then some (c.toLower.toNat - 87)
    else none

/-- An expression with its codes resolved; each call takes a character or an escape. -/
def resolveCodes : Nat → Text → Text
  | 0, t => t
  | _ + 1, [] => []
  | fuel + 1, '\\' :: t =>
    match coded? t with
    | some (c, rest) => (if c = '\\' then ['\\', c] else [c]) ++ resolveCodes fuel rest
    | none => '\\' :: t.take 1 ++ resolveCodes fuel (t.drop 1)
  | fuel + 1, c :: t => c :: resolveCodes fuel t

/-- The text of a set behind its opening bracket up to the closing one. -/
def setText (t : Text) : Text :=
  let opening := if t.head? = some '^' then t.take 1 else []
  let first := if (t.drop opening.length).head? = some ']' then [']'] else []
  let front := opening ++ first
  front ++ go t.length (t.drop front.length)
where
  /-- The text up to the closing bracket; each call takes a member. -/
  go : Nat → Text → Text
    | 0, t => t
    | _ + 1, [] => []
    | _ + 1, ']' :: _ => [']']
    | fuel + 1, '[' :: ':' :: t =>
      let name := t.takeWhile (· ≠ ']')
      if name.getLast? = some ':' && name.length < t.length then
        '[' :: ':' :: name ++ ']' :: go fuel (t.drop (name.length + 1))
      else '[' :: go fuel (':' :: t)
    | fuel + 1, c :: t => c :: go fuel t

/-- The text of a set with ends of lines and the mark around the expression written plainly. -/
def plainSet (mark : Char) : Text → Text
  | '\\' :: 'n' :: t => '\n' :: plainSet mark t
  | '\\' :: c :: t => if c = mark then mark :: plainSet mark t else '\\' :: plainSet mark (c :: t)
  | c :: t => c :: plainSet mark t
  | [] => []

/-- A text up to a mark, `none` if the mark does not come; with the number of characters that belong
to it.  In an expression a mark inside a set does not count. -/
def delimited (mark : Char) (isRegex : Bool) : Nat → Nat → Text → Text → Option Text × Nat
  | 0, taken, _, _ => (none, taken)
  | _ + 1, taken, _, [] => (none, taken)
  | fuel + 1, taken, done, c :: t =>
    if c = '\n' && (isRegex || mark = '\n') then (none, taken)
    else if c = mark then (some done, taken + 1)
    else if c = '\\' then
      match t with
      | [] => (none, taken + 1)
      | d :: u =>
        let piece : Text :=
          if d = 'n' && isRegex then ['\n']
          else if d ≠ '\n' && (d ≠ mark || (!isRegex && d = '&')) then ['\\', d]
          else if d = '\n' && !isRegex then ['\\', d]
          else [d]
        delimited mark isRegex fuel (taken + 2) (done ++ piece) u
    else if c = '[' && isRegex then
      let body := setText t
      if body.getLast? = some ']' then
        delimited mark isRegex fuel (taken + 1 + body.length) (done ++ c :: plainSet mark body)
          (t.drop body.length)
      else (none, taken + 1 + (t.takeWhile (· ≠ '\n')).length)
    else delimited mark isRegex fuel (taken + 1) (done ++ [c]) t

/-- Takes a text up to a mark. -/
def upTo (mark : Char) (isRegex : Bool) (unended : String) : Read Text := do
  let t := (← get).rest
  let (found, taken) := delimited mark isRegex (t.length + 1) 0 [] t
  skip taken
  match found with
  | some u => return u
  | none => fail unended

/-- The way of writing of the expressions in a script. -/
def manner (s : Settings) (ignoresCase perLine : Bool) : Regex.Manner :=
  { extended := s.extended
    looseStar := if s.extended then .refused else .literal
    looseBrace := .refused
    refusesDouble := !s.extended
    keepsBraces := false
    keepsClosing := false
    refusesBareClass := true
    escapesInSets := false
    hasShorthands := true
    ignoresCase := ignoresCase
    perLine := perLine && !s.zeroEnded }

/-- Reads an expression; the empty text stands for the one that was looked for last. -/
def regex (s : Settings) (ignoresCase perLine : Bool) (t : Text) : Read (Option Regex.Reading) := do
  if t = [] then
    if ignoresCase || perLine then fail "cannot specify modifiers on empty regexp" else return none
  else
    match Regex.read (manner s ignoresCase perLine)
        (Regex.units s.utf8 (resolveCodes (t.length + 1) t)) with
    | .ok r => return some r
    | .error .bareClass => throw ⟨4, say Regex.Fault.bareClass.message⟩
    | .error fault => fail fault.message

/-- The flags behind the expression of an address: whether case counts, and whether lines do. -/
def addressFlags : Nat → Bool → Bool → Read (Bool × Bool)
  | 0, i, m => return (i, m)
  | fuel + 1, i, m => do
    skipBlanks
    match ← peek with
    | some 'I' => skip 1; addressFlags fuel true m
    | some 'M' => skip 1; addressFlags fuel i true
    | _ => return (i, m)

/-- An address at this place, if there is one. -/
def address? (s : Settings) : Read (Option Address) := do
  match ← peek with
  | none => return none
  | some c =>
    if c = '/' || c = '\\' then
      skip 1
      let mark ← if c = '/' then pure (some '/') else char?
      match mark with
      | none => fail "unexpected `,'"
      | some mark =>
        let t ← upTo mark true "unterminated address regex"
        let (i, m) ← addressFlags 100 false false
        return some (.found ((← regex s i m t).map (·.regex)))
    else if c.isDigit then
      let n ← number
      skipBlanks
      if (← peek) = some '~' then
        skip 1
        skipBlanks
        let every ← number
        return some (if every = 0 then .line n else .step n every)
      else return some (.line n)
    else if c = '$' then
      skip 1
      return some .last
    else return none

/-- The end of a range at this place, if there is one. -/
def rangeEnd? (s : Settings) : Read (Option RangeEnd) := do
  match ← peek with
  | some '+' =>
    skip 1
    skipBlanks
    return some (.lines (← number))
  | some '~' =>
    skip 1
    skipBlanks
    return some (.multiple (← number))
  | _ => return (← address? s).map .address

/-- The lines to which a command is bound. -/
def selector (s : Settings) : Read Selector := do
  if (← peek) = some '+' || (← peek) = some '~' then
    skip 1
    skipBlanks
    let _ ← number
    fail "invalid usage of +N or ~N as first address"
  let first ← address? s
  skipBlanks
  let last ← if first.isSome && (← peek) = some ',' then do
      skip 1
      skipBlanks
      match ← rangeEnd? s with
      | some e =>
        skipBlanks
        pure (some e)
      | none =>
        skip 1
        fail "unexpected `,'"
    else pure none
  match first, last with
  | some (.line 0), some (.address (.found _)) => pure ()
  | some (.line 0), _ =>
    skip 1
    fail "invalid usage of line address 0"
  | _, _ => pure ()
  let negated ← if (← peek) = some '!' then do
      skip 1
      skipBlanks
      if (← peek) = some '!' then
        skip 1
        fail "multiple `!'s"
      pure true
    else pure false
  return ⟨first, last, negated⟩

/-- The pieces of what stands in the place of matches; each call takes a character or an escape. -/
def pieces : Nat → Text → List Piece
  | 0, _ => []
  | _ + 1, [] => []
  | fuel + 1, '&' :: t => .group 0 :: pieces fuel t
  | fuel + 1, '\\' :: t =>
    match t with
    | [] => [.char '\\']
    | c :: u =>
      if c.isDigit then .group (c.toNat - 48) :: pieces fuel u
      else
        match c with
        | 'U' => .casing .upper :: pieces fuel u
        | 'L' => .casing .lower :: pieces fuel u
        | 'E' => .casing .keep :: pieces fuel u
        | 'u' => .nextCasing .upper :: pieces fuel u
        | 'l' => .nextCasing .lower :: pieces fuel u
        | 'n' => .char '\n' :: pieces fuel u
        | c =>
          match coded? t with
          | some (x, rest) => .char x :: pieces fuel rest
          | none => .char c :: pieces fuel u
  | fuel + 1, c :: t => .char c :: pieces fuel t

/-- The flags of a substitution. -/
structure Flags where
  ignoresCase : Bool
  perLine : Bool
  prints : Bool
  isGlobal : Bool
  number : Option Nat
  file : Option Text

/-- Takes the flags of a substitution. -/
def flags (s : Settings) : Nat → Flags → Read Flags
  | 0, f => return f
  | fuel + 1, f => do
    match ← peek with
    | none | some '#' | some '\x7d' => return f
    | some c =>
      if c.isDigit then
        if f.number.isSome then
          skip 1
          fail "multiple number options to `s' command"
        let n ← number
        if n = 0 then fail "number option to `s' command may not be zero"
        flags s fuel { f with number := some n }
      else
        skip 1
        match c with
        | '\n' | ';' => return f
        | ' ' => flags s fuel f
        | 'i' | 'I' => flags s fuel { f with ignoresCase := true }
        | 'm' | 'M' => flags s fuel { f with perLine := true }
        | 'e' =>
          if s.sandboxed then fail "e/r/w commands disabled in sandbox mode" else flags s fuel f
        | 'p' =>
          if f.prints then fail "multiple `p' options to `s' command"
          else flags s fuel { f with prints := true }
        | 'g' =>
          if f.isGlobal then fail "multiple `g' options to `s' command"
          else flags s fuel { f with isGlobal := true }
        | 'w' =>
          if s.sandboxed then fail "e/r/w commands disabled in sandbox mode"
          return { f with file := some (← file) }
        | _ => fail "unknown option to `s'"

/-- A substitution behind its letter. -/
def substitution (s : Settings) : Read Action := do
  let unended := "unterminated `s' command"
  match ← char? with
  | none => fail unended
  | some mark =>
    let source ← upTo mark true unended
    let target ← upTo mark false unended
    let f ← flags s (target.length + (← get).rest.length + 1) ⟨false, false, false, false, none, none⟩
    let r ← regex s f.ignoresCase f.perLine source
    let pieces := pieces (target.length + 1) target
    let groups : List Nat := pieces.filterMap fun p =>
      match p with
      | .group n => some n
      | _ => none
    match r, groups.max? with
    | some r, some n =>
      if r.groups < n then
        fail ("invalid reference \\" ++ String.ofList (Text.ofNat n) ++ " on `s' command's RHS")
    | _, _ => pure ()
    modify fun d => { d with files := d.files ++ f.file.toList }
    return .substitute ⟨r.map (·.regex), pieces, f.number.getD 1, f.isGlobal, f.prints, f.file⟩

/-- The characters of a list of what is translated. -/
def translated : Nat → Text → Text
  | 0, _ => []
  | _ + 1, [] => []
  | fuel + 1, '\\' :: t =>
    match t with
    | '\\' :: u => '\\' :: translated fuel u
    | 'n' :: u => '\n' :: translated fuel u
    | [] => ['\\']
    | c :: u =>
      match coded? t with
      | some (x, rest) => x :: translated fuel rest
      | none => c :: translated fuel u
  | fuel + 1, c :: t => c :: translated fuel t

/-- A translation behind its letter. -/
def translation (s : Settings) : Read Action := do
  let unended := "unterminated `y' command"
  match ← char? with
  | none => fail unended
  | some mark =>
    let source ← upTo mark false unended
    let target ← upTo mark false unended
    let units (t : Text) : List Spelled := Regex.units s.utf8 (translated (t.length + 1) t)
    if (units source).length ≠ (units target).length then
      fail "strings for `y' command are different lengths"
    finish
    return .translate ((units source).zip (units target))

/-- A text up to the end of its last line, its escapes resolved; with the number of characters that
belong to it, and whether it has ended. -/
def textLines : Nat → Nat → Text → Text → Text × Nat × Bool
  | 0, taken, done, _ => (done, taken, false)
  | _ + 1, taken, done, [] => (done, taken, false)
  | _ + 1, taken, done, '\n' :: _ => (done, taken + 1, true)
  | fuel + 1, taken, done, '\\' :: t =>
    match t with
    | [] => (done, taken + 1, false)
    | '\n' :: u => textLines fuel (taken + 2) (done ++ ['\n']) u
    | c :: u =>
      match if c = 'n' then some ('\n', u) else coded? t with
      | some (x, rest) =>
        textLines fuel (taken + 1 + (t.length - rest.length)) (done ++ [x]) rest
      | none => textLines fuel (taken + 2) (done ++ [c]) u
  | fuel + 1, taken, done, c :: t => textLines fuel (taken + 1) (done ++ [c]) t

/-- Adds a command. -/
def add (c : Command) : Read Unit := modify fun d => { d with commands := d.commands.push c }

/-- Takes the rest of a text; if the chunk ends first, the text goes on in the next one if it is to
be `continued`. -/
def text (sel : Selector) (kind : TextKind) (front : Text) (continued : Bool) : Read Unit := do
  let t := (← get).rest
  let (body, taken, ended) := textLines (t.length + 1) 0 [] t
  let isOpen := t.getLast? = some '\\' || (t = [] && continued)
  skip taken
  if ended || !isOpen then add ⟨sel, kind.action (front ++ body ++ ['\n'])⟩
  else modify fun d => { d with pending := some (sel, kind, front ++ body) }

/-- The text of a command behind its letter. -/
def textCommand (sel : Selector) (kind : TextKind) : Read Unit := do
  skipBlanks
  match (← get).rest with
  | [] => fail "expected \\ after `a', `c' or `i'"
  | '\\' :: rest =>
    skip 1
    match rest with
    | '\n' :: _ =>
      skip 1
      text sel kind [] false
    | c :: _ =>
      if c = '\\' then text sel kind [] true
      else
        skip 1
        text sel kind [c] true
    | [] => text sel kind [] true
  | _ => text sel kind [] false

/-- A command with a label. -/
def jump (sel : Selector) (when_ : Jump) : Read Unit := do
  let l ← label
  modify fun d => { d with jumps := d.jumps ++ if l = [] then [] else [l] }
  add ⟨sel, .jump when_ l⟩

/-- A command with a number. -/
def numbered : Read (Option Nat) := do
  skipBlanks
  let n ← if (← peek).any Char.isDigit then some <$> number else pure none
  finish
  return n

/-- A command that takes the name of a file. -/
def fileCommand (s : Settings) (sel : Selector) (writes : Bool) (action : Text → Action) :
    Read Unit := do
  if s.sandboxed then fail "e/r/w commands disabled in sandbox mode"
  let name ← file
  if writes then modify fun d => { d with files := d.files ++ [name] }
  add ⟨sel, action name⟩

/-- The actions of the letters that take nothing behind them. -/
def plainActions : List (Char × Action) :=
  [('=', .number), ('d', .delete), ('D', .deleteFirst), ('F', .fileName), ('g', .get),
    ('G', .getAppend), ('h', .hold), ('H', .holdAppend), ('n', .next), ('N', .nextAppend),
    ('p', .print), ('P', .printFirst), ('x', .exchange), ('z', .clear)]

/-- Reads a command behind its selector. -/
def command (s : Settings) (sel : Selector) (c : Char) : Read Unit := do
  match plainActions.lookup c with
  | some a =>
    finish
    add ⟨sel, a⟩
  | none =>
    match c with
    | '\x7b' =>
      let d ← get
      set { d with blocks := (d.commands.size, d.origin, d.line) :: d.blocks }
      add ⟨sel, .block 0⟩
    | '\x7d' =>
      match (← get).blocks with
      | [] => fail "unexpected `\x7d'"
      | (start, _) :: blocks =>
        if sel.first.isSome then fail "\x7d doesn't want any addresses"
        modify fun d =>
          { d with
            blocks := blocks
            commands := d.commands.modify start fun c =>
              { c with action := .block d.commands.size } }
        finish
    | 'a' => textCommand sel .append
    | 'i' => textCommand sel .insert
    | 'c' => textCommand sel .change
    | ':' =>
      if sel.first.isSome then fail ": doesn't want any addresses"
      let l ← label
      if l = [] then fail "\":\" lacks a label"
      modify fun d => { d with labels := (l, d.commands.size) :: d.labels }
    | 'b' => jump sel .always
    | 't' => jump sel .replaced
    | 'T' => jump sel .notReplaced
    | 'q' | 'Q' =>
      if sel.last.isSome then fail "command only uses one address"
      let n ← numbered
      add ⟨sel, .quit (n.getD 0) (c = 'Q')⟩
    | 'l' =>
      let n ← numbered
      add ⟨sel, .list n⟩
    | 'r' => fileCommand s sel false .readFile
    | 'R' => fileCommand s sel false .readLine
    | 'w' => fileCommand s sel true .write
    | 'W' => fileCommand s sel true .writeFirst
    | 's' =>
      let a ← substitution s
      add ⟨sel, a⟩
    | 'y' =>
      let a ← translation s
      add ⟨sel, a⟩
    | 'v' =>
      let version ← label
      finish
      if !(version.all fun x => x.isDigit || x = '.') || isLater version then
        fail "expected newer version of sed"
    | 'e' =>
      if s.sandboxed then fail "e/r/w commands disabled in sandbox mode"
      let _ ← takeWhile (· ≠ '\n')
      skip 1
    | c => fail ("unknown command: `" ++ String.ofList [c] ++ "'")
where
  /-- Whether a version is later than the one that is understood. -/
  isLater (version : Text) : Bool :=
    match (Text.pieces '.' version).map fun t => (digits? t).getD 0 with
    | a :: b :: _ => 4 < a || (a = 4 && 9 < b)
    | [a] => 4 < a
    | [] => false

/-- Reads the commands of a chunk; each call takes one. -/
def commands (s : Settings) : Nat → Read Unit
  | 0 => return
  | fuel + 1 => do
    let _ ← takeWhile fun c => isSpace c || c = ';'
    if (← get).rest = [] then return
    let sel ← selector s
    match ← char? with
    | none => fail "missing command"
    | some '#' =>
      if sel.first.isSome then fail "comments don't accept any addresses"
      let d ← get
      let isFirst := d.commands.size = 0 && d.taken = 1 && d.labels.isEmpty &&
        (match d.origin with
          | .expression n => n = 1
          | .file _ => true)
      let comment ← takeWhile (· ≠ '\n')
      if isFirst && comment = ['n'] then modify fun d => { d with silent := true }
      commands s fuel
    | some c =>
      command s sel c
      commands s fuel

/-- Reads a chunk of a script. -/
def chunk (s : Settings) (origin : Origin) (t : Text) : Read Unit := do
  modify fun d => { d with origin, rest := t, taken := 0, line := 1 }
  match (← get).pending with
  | some (sel, kind, front) =>
    modify fun d => { d with pending := none }
    text sel kind (if front = [] then [] else front ++ ['\n']) false
  | none => pure ()
  commands s (t.length + 1)

/-- The end of a script: open texts, blocks and jumps without a place to go to. -/
def conclude : Read Script := do
  match (← get).pending with
  | some (sel, kind, front) =>
    add ⟨sel, kind.action (if front = [] then [] else front ++ ['\n'])⟩
  | none => pure ()
  let d ← get
  match d.blocks with
  | (_, origin, line) :: _ => throw ⟨1, origin.place 0 line ++ say "unmatched `\x7b'"⟩
  | [] => pure ()
  match d.jumps.find? fun l => (d.labels.lookup l).isNone with
  | some l => throw ⟨4, say "can't find label for jump to `" ++ l ++ ['\'']⟩
  | none => return ⟨d.commands, d.labels, d.silent, d.files⟩

/-- Reads a script. -/
def read (s : Settings) (chunks : List (Origin × Text)) : Except Complaint Script :=
  let start : Draft := ⟨.expression 1, [], 0, 1, #[], [], [], [], [], none, false⟩
  ((do
    for (origin, t) in chunks do
      chunk s origin t
    conclude : Read Script).run start).map (·.1)

end Edit
end Shell
end IconAssets
