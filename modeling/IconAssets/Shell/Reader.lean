import IconAssets.Shell.Token

/-!
# Reading shell commands

Commands are read by recursive descent, at the top of a script a line at a time.  What is read
inside a command is read by readers for the next level; the number of levels bounds how deep
commands can be nested.

A script is refused at the first token that cannot stand where it is.
-/

namespace IconAssets
namespace Shell

/-- The readers of what is inside a command. -/
structure Level where
  command : Reader Command
  nested : Bool → Reader Unit

/-- Reads a token at a level. -/
def Level.token (l : Level) (o : Lookout) : Reader Token := Reader.token l.nested o

/-- Goes over a mark. -/
def Level.expect (l : Level) (o : Lookout) (t : String) : Reader Unit := do
  let found ← l.token o
  if !found.isMark t then Reader.expected ("\"" ++ t ++ "\"") found

/-- The name and the value if a word assigns one. -/
def assignment? : Word → Option (Text × Word)
  | .text false t :: w =>
    let name := t.takeWhile isNameChar
    match t.drop name.length with
    | '=' :: v => if isName name then some (name, if v = [] then w else .text false v :: w) else none
    | _ => none
  | _ => none

/-- The redirection with a given operator to a word. -/
def redirectionOf (stream : Option Nat) (o : Text) (w : Word) : Redirection :=
  if o = ['<'] then .read (stream.getD 0) w
  else if o = ['<', '&'] then .copy (stream.getD 0) w
  else if o = ['>', '&'] then .copy (stream.getD 1) w
  else if o = ['<', '>'] then .write (stream.getD 0) .within w
  else .write (stream.getD 1) (if o = ['>', '>'] then .behind else .anew (o = ['>', '|'])) w

/-- Reads the target of a redirection. -/
def readTarget (l : Level) (stream : Option Nat) (o : Text) : Reader Redirection := do
  let awaits := o = ['<', '<'] || o = ['<', '<', '-']
  let (t, _) ← Reader.heldToken l.nested awaits
  match t with
  | .word w =>
    if awaits then do
      let s ← get
      let a : Awaited := ⟨plainText w, hasQuotes w, o.length = 3⟩
      set { s with awaited := s.awaited ++ [a], given := s.given.tail }
      return .document (stream.getD 0) (s.given.headD [])
    else return redirectionOf stream o w
  | _ => Reader.unexpected t

/-- Reads the redirections behind a command. -/
def readRedirections (l : Level) : Nat → Reader (List Redirection)
  | 0 => return []
  | fuel + 1 => do
    match ← l.token .command with
    | .redirection stream o => do
      let r ← readTarget l stream o
      return r :: (← readRedirections l fuel)
    | t => do
      Reader.hold t
      return []

/-- How a list of commands ends. -/
inductive Extent where
  /-- With the line; nothing else may end it. -/
  | line
  /-- At a token that ends lists; the list is not empty. -/
  | some
  /-- At a token that ends lists. -/
  | any
  deriving DecidableEq

/-- A command after others. -/
def Command.after : Option Command → Command → Command
  | none, c => c
  | some before, c => .sequence before c

/-- Reads the commands behind a pipe. -/
def readStages (l : Level) : Nat → Reader (List Command)
  | 0 => return []
  | fuel + 1 => do
    let t ← l.token .plain
    if t.isMark "|" then do
      Reader.hold (← l.token .commandBelow)
      let c ← l.command
      return c :: (← readStages l fuel)
    else do
      Reader.hold t
      return []

/-- Reads commands joined by pipes; what the pipeline ends with may be turned around. -/
def readPipeline (l : Level) : Reader Command := do
  let t ← l.token .plain
  let negates := t.isMark "!"
  if negates then Reader.hold (← l.token .command) else Reader.hold t
  let first ← l.command
  let c : Command := match ← readStages l Reader.patience with
    | [] => first
    | more => .pipe (first :: more)
  return if negates then .negate c else c

/-- Reads the rest of pipelines joined by conditions. -/
def readChainFrom (l : Level) : Nat → Command → Reader Command
  | 0, c => return c
  | fuel + 1, c => do
    let t ← l.token .plain
    if t.isMark "&&" || t.isMark "||" then do
      Reader.hold (← l.token .commandBelow)
      let d ← readPipeline l
      readChainFrom l fuel (if t.isMark "&&" then .both c d else .either c d)
    else do
      Reader.hold t
      return c

/-- Reads commands up to the end of a list, behind commands read before. -/
def readListFrom (l : Level) (extent : Extent) : Nat → Option Command → Reader Command
  | 0, before => return before.getD .nothing
  | fuel + 1, before => do
    let finish (c : Command) : Reader Command := do
      Reader.readAwaited l.nested
      Reader.hold .ended
      return c
    match ← l.token ⟨extent ≠ .line, true, true⟩ with
    | .lineEnd => do
      Reader.readAwaited l.nested
      return before.getD .nothing
    | .ended => finish (before.getD .nothing)
    | t => do
      Reader.hold t
      if t.endsList && (extent = .any || (extent = .some && before.isSome)) then
        return before.getD .nothing
      else do
        let c ← readChainFrom l Reader.patience (← readPipeline l)
        let t ← l.token .plain
        let all := Command.after before (if t.isMark "&" then .background c else c)
        match t with
        | .ended => finish all
        | .lineEnd => do
          Reader.hold t
          readListFrom l extent fuel (some all)
        | _ =>
          if t.isMark ";" || t.isMark "&" then readListFrom l extent fuel (some all)
          else if extent = .line then Reader.unexpected t
          else do
            Reader.hold t
            return all

/-- Reads a list of commands. -/
def readList (l : Level) (extent : Extent) : Reader Command :=
  readListFrom l extent Reader.patience none

/-- Reads the parts of a choice behind its first word. -/
def readChoice (l : Level) : Nat → Reader Command
  | 0 => Reader.refuse "end of file unexpected"
  | fuel + 1 => do
    let test ← readList l .some
    l.expect .plain "then"
    let yes ← readList l .some
    let t ← l.token .plain
    if t.isMark "elif" then return .choice test yes (← readChoice l fuel)
    else if t.isMark "else" then return .choice test yes (← readList l .some)
    else do
      Reader.hold t
      return .choice test yes .nothing

/-- Reads words up to another token. -/
def readRow (l : Level) : Nat → Reader (List Word × Token)
  | 0 => return ([], .ended)
  | fuel + 1 => do
    match ← l.token .plain with
    | .word w => do
      let (ws, t) ← readRow l fuel
      return (w :: ws, t)
    | t => return ([], t)

/-- Reads a loop over words behind its first word, up to its body. -/
def readEach (l : Level) (line : Nat) : Reader Command := do
  let name ← match ← l.token .plain with
    | .word w =>
      if (plain? w).any isName then pure (plainText w)
      else Reader.refuse "Bad for loop variable"
    | _ => Reader.refuse "Bad for loop variable"
  let t ← l.token .commandBelow
  let words ← if t.isMark "in" then do
      let (ws, t) ← readRow l Reader.patience
      match t with
      | .lineEnd => pure ()
      | t => if !t.isMark ";" then Reader.unexpected t
      Reader.hold t
      discard (l.token .plain)
      pure (some ws)
    else do
      if !t.isMark ";" then Reader.hold t
      pure none
  l.expect .commandBelow "do"
  return .each line name words (← readList l .some)

/-- The word that a token is as a pattern. -/
def Token.asWord : Token → Word
  | .word w => w
  | .mark m => if m ∈ keywords then [.text false m] else []
  | _ => []

/-- Reads the patterns of an arm behind the first one, and goes over the parenthesis. -/
def readPatterns (l : Level) : Nat → Reader (List Word)
  | 0 => return []
  | fuel + 1 => do
    let t ← l.token .plain
    if t.isMark "|" then do
      let w := (← l.token .plain).asWord
      return w :: (← readPatterns l fuel)
    else if t.isMark ")" then return []
    else Reader.expected "\")\"" t

/-- Reads the arms of a selection, and goes over its last word. -/
def readArms (l : Level) : Nat → Reader (List (List Word × Command))
  | 0 => return []
  | fuel + 1 => do
    let t ← l.token .keywordBelow
    if t.isMark "esac" then return []
    else do
      let first ← if t.isMark "(" then l.token .plain else pure t
      let patterns ← readPatterns l Reader.patience
      let body ← readList l .any
      let arm := (first.asWord :: patterns, body)
      let t ← l.token .keywordBelow
      if t.isMark "esac" then return [arm]
      else if t.isMark ";;" then return arm :: (← readArms l fuel)
      else Reader.expected "\";;\"" t

/-- Reads a selection behind its first word. -/
def readSelection (l : Level) (line : Nat) : Reader Command := do
  match ← l.token .plain with
  | .word w => do
    l.expect .commandBelow "in"
    return .select line w (← readArms l Reader.patience)
  | t => Reader.expected "word" t

/-- What a simple command is made of; each list has its last item first. -/
structure Simple where
  assignments : List (Text × Word)
  words : List Word
  redirections : List Redirection

/-- Reads the definition of a function behind its name and the opening parenthesis. -/
def readFunction (l : Level) (w : Word) : Reader Command := do
  l.expect .plain ")"
  match plain? w with
  | none => Reader.refuse "Bad function name"
  | some name =>
    if isName name && !(name ∈ reservedNames) then do
      Reader.hold (← l.token .commandBelow)
      return .define name (← l.command)
    else Reader.refuse "Bad function name"

/-- Reads the rest of a simple command. -/
def readSimple (l : Level) (line : Nat) : Nat → Simple → Reader Command
  | 0, _ => Reader.refuse "end of file unexpected"
  | fuel + 1, c => do
    match ← l.token ⟨false, false, c.words.isEmpty⟩ with
    | .word w =>
      match c.words, assignment? w with
      | [], some a => readSimple l line fuel { c with assignments := a :: c.assignments }
      | _, _ => readSimple l line fuel { c with words := w :: c.words }
    | .redirection stream o => do
      let r ← readTarget l stream o
      readSimple l line fuel { c with redirections := r :: c.redirections }
    | t =>
      match c with
      | ⟨[], [w], []⟩ =>
        if t.isMark "(" then readFunction l w
        else do
          Reader.hold t
          return .simple line [] [w] []
      | ⟨as, ws, rs⟩ => do
        Reader.hold t
        return .simple line as.reverse ws.reverse rs.reverse

/-- A command with redirections, if there are any. -/
def withRedirections (line : Nat) (c : Command) (rs : List Redirection) : Command :=
  match c, rs with
  | c, [] => c
  | .subshell line body _, rs => .subshell line body rs
  | c, rs => .redirected line c rs

/-- Reads a command that has a mark at its start and one at its end. -/
def readCompound (l : Level) (line : Nat) (t : Token) : Reader Command := do
  let list := readList l .some
  if t.isMark "if" then do
    let c ← readChoice l Reader.patience
    l.expect .plain "fi"
    return c
  else if t.isMark "while" || t.isMark "until" then do
    let test ← list
    l.expect .plain "do"
    let body ← list
    l.expect .plain "done"
    return .loop (t.isMark "while") test body
  else if t.isMark "for" then do
    let c ← readEach l line
    l.expect .plain "done"
    return c
  else if t.isMark "case" then readSelection l line
  else if t.isMark "(" then do
    let body ← list
    l.expect .plain ")"
    return .subshell line body []
  else if t.isMark "\x7b" then do
    let body ← list
    l.expect .plain "\x7d"
    return body
  else Reader.unexpected t

/-- Reads one command. -/
def readCommand (l : Level) : Reader Command := do
  let line := (← get).line
  let t ← l.token .plain
  match t with
  | .word _ | .redirection _ _ => do
    Reader.hold t
    readSimple l (← get).line Reader.patience ⟨[], [], []⟩
  | _ => do
    let c ← readCompound l line t
    return withRedirections line c (← readRedirections l Reader.patience)

mutual

/-- Reads one command; the argument bounds how deep commands can be nested. -/
def commandWithin : Nat → Reader Command
  | 0 => Reader.refuse "end of file unexpected"
  | levels + 1 => readCommand ⟨commandWithin levels, nestedWithin levels⟩

/-- Reads the commands of a nested script, with the parenthesis that closes it if there is one. -/
def nestedWithin : Nat → Bool → Reader Unit
  | 0, _ => Reader.refuse "end of file unexpected"
  | levels + 1, isClosed => do
    let l : Level := ⟨commandWithin levels, nestedWithin levels⟩
    discard (readList l .any)
    if isClosed then l.expect .plain ")"

end

/-- The greatest depth to which commands are read. -/
def maxLevels : Nat := 100000

/-- The readers of the commands of a script. -/
def outermost : Level := ⟨commandWithin maxLevels, nestedWithin maxLevels⟩

/-- Reads a text as if it stood in quotes. -/
def readQuoted (t : Text) : Except Refusal Word :=
  match readParts ⟨outermost.nested, none, false⟩ Reader.patience .document [] (.start [] [] 1 t) with
  | .ok w _ => .ok w
  | .error r _ => .error r

/-- Reads the commands of the next line, and of the lines that belong to it.  The answer comes with
what is left of the script. -/
def readLine (aliases : List (Text × Text)) (line : Nat) (t : Text) :
    Except Refusal (Command × Script) :=
  let read (given : List Word) : Except Refusal (Command × Script) :=
    match readList outermost .line (.start aliases given line t) with
    | .ok c s => .ok (c, s)
    | .error r _ => .error r
  match read [] with
  | .ok (c, s) => if s.found = [] then .ok (c, s) else read s.found.reverse
  | .error r => .error r

end Shell
end IconAssets
