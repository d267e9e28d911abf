import IconAssets.Shell.Command

/-!
# Scripts that are being read

A script is read from its start, a token at a time, and what is left of it is kept with what has
been noticed on the way: the token that is given back, the texts that redirections wait for, and
the aliases whose values are being read.

A redirection may take its text from the lines behind it.  When the redirection is read its text
is not known yet, so a line with such redirections is read twice: the second time with the texts
that were found in the first.
-/

namespace IconAssets
namespace Shell

/-- Why a script cannot be read on. -/
structure Refusal where
  line : Nat
  message : String

/-- A token of a script. -/
inductive Token where
  | ended
  | lineEnd
  /-- An operator, or a word with a meaning of its own. -/
  | mark (t : Text)
  | word (w : Word)
  /-- The operator of a redirection, and the stream in front of it. -/
  | redirection (stream : Option Nat) (operator : Text)

/-- A text that a redirection waits for. -/
structure Awaited where
  /-- The line behind the text. -/
  last : Text
  /-- Whether the text is taken as it is written. -/
  literal : Bool
  /-- Whether tabs at the start of its lines are left out. -/
  tabless : Bool

/-- An alias whose value is being read. -/
structure Busy where
  name : Text
  /-- The number of characters behind the value. -/
  behind : Nat
  /-- Whether the word behind the value may be an alias as well. -/
  goesOn : Bool

/-- A script that is being read. -/
structure Script where
  /-- What is left of the script. -/
  rest : Text
  line : Nat
  /-- The values of names that stand for more text. -/
  aliases : List (Text × Text)
  busy : List Busy
  /-- The token that is given back. -/
  held : Option Token
  awaited : List Awaited
  /-- The texts for the redirections that come next, as far as they are known. -/
  given : List Word
  /-- The texts that have been found, the last one first. -/
  found : List Word

/-- A reader of some part of a script. -/
abbrev Reader := EStateM Refusal Script

namespace Script

/-- A script that is to be read from its start. -/
def start (aliases : List (Text × Text)) (given : List Word) (line : Nat) (t : Text) : Script :=
  ⟨t, line, aliases, [], none, [], given, []⟩

end Script

namespace Reader

/-- A number of rounds that no reading of a script exceeds. -/
def patience : Nat := 100000000

/-- Refuses the script at this line. -/
def refuse {α : Type} (message : String) : Reader α := do
  throw ⟨(← get).line, message⟩

/-- Goes to the next line. -/
def countLine : Reader Unit := modify fun s => { s with line := s.line + 1 }

/-- Takes the next character. -/
def next? : Reader (Option Char) := modifyGet fun s =>
  match s.rest with
  | [] => (none, s)
  | c :: t => (some c, { s with rest := t })

/-- Goes over the line ends that a backslash takes away. -/
def joinLines : Reader Unit := modify fun s =>
  let r := joined 0 s.rest
  if r.1 = 0 then s else { s with rest := r.2, line := s.line + r.1 }
where
  /-- The number of line ends at the start of a text, and what follows. -/
  joined : Nat → Text → Nat × Text
    | n, '\\' :: '\n' :: t => joined (n + 1) t
    | n, t => (n, t)

/-- Looks at the next character of a joined line. -/
def peek? : Reader (Option Char) := do
  joinLines
  return (← get).rest.head?

/-- Takes the next character of a joined line. -/
def take? : Reader (Option Char) := do
  joinLines
  next?

/-- Takes a character if it comes next. -/
def takeIf (c : Char) : Reader Bool := do
  if (← peek?) = some c then
    discard next?
    return true
  else return false

/-- Takes characters of a joined line as long as they pass a test. -/
def takeWhile (test : Char → Bool) : Nat → Reader Text
  | 0 => return []
  | fuel + 1 => do
    match ← peek? with
    | some c =>
      if test c then
        discard next?
        return c :: (← takeWhile test fuel)
      else return []
    | none => return []

/-- Gives a token back. -/
def hold (t : Token) : Reader Unit := modify fun s => { s with held := some t }

/-- Reads a part of the script that waits for texts of its own. -/
def enclosed (body : Reader Unit) : Reader Unit := do
  let s ← get
  set { s with held := none, awaited := [], given := [], found := [] }
  body
  modify fun t =>
    { t with held := s.held, awaited := s.awaited, given := s.given, found := s.found }

/-- Reads another script, and leaves this one as it is. -/
def apart (line : Nat) (t : Text) (body : Reader Unit) : Reader Unit := do
  let s ← get
  set (Script.start s.aliases [] line t)
  body
  set s

end Reader

end Shell
end IconAssets
