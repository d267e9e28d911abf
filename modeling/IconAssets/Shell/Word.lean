import IconAssets.Shell.Script

/-!
# Reading words

A word is read as its parts: text, parameters, sums and nested scripts.  What the characters mean
depends on the frame that they are in, which is a word of a command, a quotation, the braces of a
parameter, the parentheses of a sum, or a text that goes on to its last line.

A nested script is read to find where it ends, and kept as text.
-/

namespace IconAssets
namespace Shell

/-- What the characters read next belong to. -/
inductive Frame where
  /-- A word of a command. -/
  | word
  /-- A quotation. -/
  | quotation
  /-- The braces of a parameter. -/
  | braces (quoted : Bool)
  /-- A sum, with the number of parentheses that are open in it. -/
  | sum (depth : Nat)
  /-- A text of the script. -/
  | document
  deriving DecidableEq

/-- How a word is read. -/
structure Reading where
  /-- Reads the commands of a nested script, with the parenthesis that closes it if there is one. -/
  nested : Bool → Reader Unit
  /-- The text of the script that is read, if the word is one. -/
  document : Option Awaited
  /-- Whether parameters and nested scripts are left as they are. -/
  verbatim : Bool

namespace Frame

/-- Whether parts are quoted. -/
def isQuoted : Frame → Bool
  | .word | .braces false => false
  | _ => true

/-- The frame of the braces of a parameter. -/
def bracesIn (f : Frame) : Frame := .braces f.isQuoted

/-- Whether a character ends the frame. -/
def isClosedBy (f : Frame) (c : Char) : Bool :=
  match f with
  | .word => c ∈ [' ', '\t', '\n', '|', '&', ';', '<', '>', '(', ')']
  | .quotation => c = '"'
  | .braces _ => c = closeBrace
  | .sum _ | .document => false

/-- Whether a backslash takes the meaning from a character. -/
def shields (f : Frame) (c : Char) : Bool :=
  !f.isQuoted || c = '\\' || c = backquote || c = '$' || (c = '"' && f ≠ .document) ||
    (c = closeBrace && f = .braces true)

/-- What is wrong if the script ends here. -/
def missingEnd? (f : Frame) (inDocument : Bool) : Option String :=
  match f with
  | .word | .document => none
  | .sum _ => some "Missing '))'"
  | .braces false => some "Missing '\x7d'"
  | .quotation | .braces true =>
    some (if inDocument then "Missing '\x7d'" else "Unterminated quoted string")

end Frame

namespace Awaited

/-- The rest of a script behind the last line of an awaited text, if that line comes next. -/
def endAt? (a : Awaited) (t : Text) : Option Text :=
  if a.last.isPrefixOf t then
    match t.drop a.last.length with
    | [] => some []
    | c :: rest => if c = '\n' then some rest else none
  else none

/-- At the start of a line of an awaited text: leaves out tabs, and tells whether the text ends
here. -/
def endsHere (a : Awaited) : Reader Bool := do
  if a.tabless then
    modify fun s => { s with rest := s.rest.dropWhile (· = '\t') }
  match a.endAt? (← get).rest with
  | none => return false
  | some rest => do
    modify fun s => { s with rest, line := s.line + 1 }
    return true

end Awaited

/-- The remedy that a character asks for. -/
def remedyOf? (c : Char) : Option Remedy :=
  match c with
  | '-' => some .standIn
  | '=' => some .assign
  | '?' => some .complain
  | '+' => some .standInIfSet
  | _ => none

/-- What is asked for in the braces behind a parameter. -/
inductive Request where
  | value
  | size
  | remedy (r : Remedy) (emptyIsNone : Bool)
  | cut (c : Cut)
  | unknown

namespace Request

/-- The part of a word that a request for a parameter is, given the word in its braces. -/
def part (quoted : Bool) (name : Text) (inner : Word) : Request → Part
  | .value => .value quoted name
  | .size => .size quoted name
  | .remedy r emptyIsNone => .remedied quoted name r emptyIsNone inner
  | .cut c => .trimmed quoted name c inner
  | .unknown => .malformed

/-- Reads which end of a value is cut off, behind the mark for it. -/
def readCut (mark : Char) : Reader Request := do
  let longest ← Reader.takeIf mark
  return .cut ⟨mark = '%', longest⟩

/-- Reads the request behind the name of a parameter.  A character that is no request is passed
over. -/
def read : Reader Request := do
  match ← Reader.take? with
  | none => return .unknown
  | some c =>
    if c = closeBrace then return .value
    else if c = '#' || c = '%' then readCut c
    else if c = ':' then
      match ← Reader.take? with
      | none => return .unknown
      | some d => return (remedyOf? d).elim .unknown fun r => .remedy r true
    else return (remedyOf? c).elim .unknown fun r => .remedy r false

/-- Reads the name of a parameter in braces that may have a mark in front, and what is asked for;
no name if there is none. -/
def readNamed (sized : Bool) (fuel : Nat) : Reader (Text × Request) := do
  let asked (name : Text) : Reader (Text × Request) := do
    if !sized then return (name, ← read)
    else if (← Reader.peek?) = some closeBrace then return (name, .size)
    else return (name, .unknown)
  match ← Reader.peek? with
  | none => return ([], .unknown)
  | some c =>
    if isNameStart c then asked (← Reader.takeWhile isNameChar fuel)
    else if c.isDigit then asked (← Reader.takeWhile Char.isDigit fuel)
    else return ([], .unknown)

/-- Reads the parameter behind an opening brace, and what is asked for. -/
def readParameter (fuel : Nat) : Reader (Text × Request) := do
  match ← Reader.peek? with
  | none => return ([], .unknown)
  | some c =>
    if isNameChar c then readNamed false fuel
    else if c = closeBrace then return ([], .unknown)
    else do
      discard Reader.take?
      if c = '#' then
        match ← Reader.peek? with
        | none => return ([c], ← read)
        | some d =>
          if isNameChar d then readNamed true fuel
          else
            let s ← get
            discard Reader.take?
            if d ≠ closeBrace && (← Reader.peek?) = some closeBrace then
              return if isSpecialName d then ([d], .size) else ([], .unknown)
            else do
              set s
              return ([c], ← read)
      else if isSpecialName c then return ([c], ← read)
      else return ([], .unknown)

end Request

/-- Adds a character to parts, the last one first. -/
def addChar (quoted : Bool) (c : Char) : List Part → List Part
  | .text q t :: ps => if q = quoted then .text q (c :: t) :: ps else .text quoted [c] :: .text q t :: ps
  | ps => .text quoted [c] :: ps

/-- Parts in order, whose texts have been collected with their last character first. -/
def inOrder (ps : List Part) : Word :=
  (ps.map fun p =>
    match p with
    | .text q t => .text q t.reverse
    | p => p).reverse

/-- Reads up to the quotation mark that closes a literal text. -/
def readLiteral (m : Reading) : Nat → Text → Reader Text
  | 0, _ => Reader.refuse "Unterminated quoted string"
  | fuel + 1, before => do
    let unfinished : Reader Text := Reader.refuse
      (if m.document.isSome then "Missing '\x7d'" else "Unterminated quoted string")
    match ← Reader.next? with
    | none => unfinished
    | some '\'' => return before.reverse
    | some '\n' => do
      Reader.countLine
      match m.document with
      | none => readLiteral m fuel ('\n' :: before)
      | some a => if ← a.endsHere then unfinished else readLiteral m fuel ('\n' :: before)
    | some c => readLiteral m fuel (c :: before)

/-- Reads the script up to the next backquote.  A backslash takes the meaning from the characters
that have one here. -/
def readBackquoted (quoted : Bool) : Nat → Text → Reader Text
  | 0, _ => Reader.refuse "EOF in backquote substitution"
  | fuel + 1, before => do
    match ← Reader.take? with
    | none => Reader.refuse "EOF in backquote substitution"
    | some '\\' =>
      match ← Reader.next? with
      | none => Reader.refuse "EOF in backquote substitution"
      | some d =>
        if d = '\\' || d = backquote || d = '$' || (quoted && d = '"') then
          readBackquoted quoted fuel (d :: before)
        else readBackquoted quoted fuel (d :: '\\' :: before)
    | some c =>
      if c = backquote then return before.reverse
      else do
        if c = '\n' then Reader.countLine
        readBackquoted quoted fuel (c :: before)

/-- Reads a nested script behind its opening parenthesis. -/
def readNested (m : Reading) (quoted : Bool) : Reader Part := do
  let s ← get
  Reader.enclosed (m.nested true)
  let size := s.rest.length - (← get).rest.length
  return .output quoted s.line (s.rest.take (size - 1))

/-- Reads a nested script behind a backquote. -/
def readOldNested (m : Reading) (quoted : Bool) (fuel : Nat) : Reader Part := do
  let t ← readBackquoted quoted fuel []
  Reader.apart 1 t (m.nested false)
  return .output quoted 1 t

mutual

/-- Reads the parts up to the end of a frame, behind parts read before, the last one first. -/
def readParts (m : Reading) : Nat → Frame → List Part → Reader Word
  | 0, _, _ => Reader.refuse "Missing '\x7d'"
  | fuel + 1, f, before => do
    let ended : Reader Word :=
      match f.missingEnd? m.document.isSome with
      | none => return inOrder before
      | some message => Reader.refuse message
    let after (p : Part) : Reader Word := readParts m fuel f (p :: before)
    match ← Reader.peek? with
    | none => ended
    | some c =>
      if f.isClosedBy c then do
        if f ≠ .word then discard Reader.next?
        return inOrder before
      else do
        discard Reader.next?
        if c = '\n' then do
          Reader.countLine
          match m.document with
          | none => readParts m fuel f (addChar f.isQuoted c before)
          | some a =>
            if ← a.endsHere then
              match f.missingEnd? true with
              | none => return inOrder (addChar f.isQuoted c before)
              | some message => Reader.refuse message
            else readParts m fuel f (addChar f.isQuoted c before)
        else if c = '$' && !m.verbatim then do
          let p? ← readDollar m fuel f
          match p? with
          | none => readParts m fuel f (addChar f.isQuoted c before)
          | some p => after p
        else if c = backquote then do
          if m.verbatim then readParts m fuel f (addChar true c before)
          else after (← readOldNested m f.isQuoted fuel)
        else if c = '\\' then
          match ← Reader.next? with
          | none => readParts m fuel f (addChar true c before)
          | some d =>
            readParts m fuel f
              (addChar true d (if f.shields d then before else addChar true c before))
        else if c = '\'' && !f.isQuoted then do
          after (.text true (← readLiteral m fuel []).reverse)
        else if c = '"' && (f = .word || f = .braces false || f = .braces true) then do
          let inner ← readParts m fuel .quotation []
          let isBare : Bool := match inner with
            | [.value _ name] => name = ['@']
            | _ => false
          let inner := if isBare then inner else .text true [] :: inner
          readParts m fuel f (inner.reverse.map turned ++ before)
        else
          match f with
          | .sum depth =>
            if c = '(' then readParts m fuel (.sum (depth + 1)) (addChar true c before)
            else if c ≠ ')' then readParts m fuel f (addChar true c before)
            else
              match depth with
              | k + 1 => readParts m fuel (.sum k) (addChar true c before)
              | 0 =>
                if ← Reader.takeIf ')' then return inOrder before
                else readParts m fuel f (addChar true c before)
          | _ => readParts m fuel f (addChar f.isQuoted c before)
where
  /-- A part with its text turned around. -/
  turned : Part → Part
    | .text q t => .text q t.reverse
    | p => p

/-- Reads the part behind a dollar sign; none if the sign stands for itself. -/
def readDollar (m : Reading) : Nat → Frame → Reader (Option Part)
  | 0, _ => Reader.refuse "Missing '\x7d'"
  | fuel + 1, f => do
    let quoted := f.isQuoted
    match ← Reader.peek? with
    | none => return none
    | some c =>
      if c = '(' then do
        discard Reader.next?
        if ← Reader.takeIf '(' then return some (.sum quoted (← readParts m fuel (.sum 0) []))
        else return some (← readNested m quoted)
      else if c = openBrace then do
        discard Reader.next?
        let (name, request) ← Request.readParameter fuel
        match request with
        | .value => return some (.value quoted name)
        | .cut _ => return some (request.part quoted name (← readParts m fuel (.braces false) []))
        | _ =>
          let inner ← readParts m fuel f.bracesIn []
          return some (request.part quoted name inner)
      else if isNameStart c then
        return some (.value quoted (← Reader.takeWhile isNameChar fuel))
      else if isSpecialName c then do
        discard Reader.next?
        return some (.value quoted [c])
      else return none

end

/-- Reads a word of a command. -/
def readWord (nested : Bool → Reader Unit) (verbatim : Bool) : Reader Word :=
  readParts ⟨nested, none, verbatim⟩ Reader.patience .word []

/-- Reads the lines of a text that is taken as it is written. -/
def readLines (a : Awaited) : Nat → Text → Reader Text
  | 0, before => return before.reverse
  | fuel + 1, before => do
    match ← Reader.next? with
    | none => return before.reverse
    | some c =>
      if c = '\n' then do
        Reader.countLine
        if ← a.endsHere then return (c :: before).reverse
        else readLines a fuel (c :: before)
      else readLines a fuel (c :: before)

/-- Reads a text of the script. -/
def readDocument (nested : Bool → Reader Unit) (a : Awaited) : Reader Word := do
  if ← a.endsHere then return []
  else if a.literal then return [.text true (← readLines a Reader.patience [])]
  else readParts ⟨nested, some a, false⟩ Reader.patience .document []

/-- The plain text of a word that has no other parts. -/
def plain? : Word → Option Text
  | [] => some []
  | [.text false t] => some t
  | _ => none

/-- The text of a word without what it stands for. -/
def plainText (w : Word) : Text :=
  w.flatMap fun p =>
    match p with
    | .text _ t => t
    | _ => []

/-- Whether a word holds quoted text. -/
def hasQuotes (w : Word) : Bool :=
  w.any fun p =>
    match p with
    | .text quoted _ => quoted
    | _ => false

end Shell
end IconAssets
