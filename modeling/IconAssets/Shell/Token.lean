import IconAssets.Shell.Word

/-!
# Shell tokens

A script is read as words, operators and line ends.  What a word is taken for depends on where it
stands: it may be a keyword, or a name that stands for more text.
-/

namespace IconAssets
namespace Shell

/-- What is looked for when a token is read. -/
structure Lookout where
  /-- Whether line ends are passed over. -/
  lines : Bool
  /-- Whether words may be keywords. -/
  keywords : Bool
  /-- Whether words may be aliases. -/
  aliases : Bool

namespace Lookout

/-- For a word as it is written. -/
def plain : Lookout := ⟨false, false, false⟩

/-- For the start of a command. -/
def command : Lookout := ⟨false, true, true⟩

/-- For the start of a command behind any number of lines. -/
def commandBelow : Lookout := ⟨true, true, true⟩

/-- For a keyword behind any number of lines. -/
def keywordBelow : Lookout := ⟨true, true, false⟩

end Lookout

namespace Token

/-- The token of a mark. -/
def ofString (t : String) : Token := .mark t.toList

/-- Whether a token is a certain mark. -/
def isMark (t : String) : Token → Bool
  | .mark m => m = t.toList
  | _ => false

/-- Whether a token ends a list of commands. -/
def endsList : Token → Bool
  | .mark m => m ∈ closingMarks
  | .ended => true
  | _ => false

/-- The name of a token in messages. -/
def name : Token → String
  | .lineEnd => "newline"
  | .ended => "end of file"
  | .redirection _ _ => "redirection"
  | .word _ => "word"
  | .mark m => "\"" ++ String.ofList m ++ "\""

end Token

namespace Reader

/-- Refuses a token. -/
def unexpected {α : Type} (t : Token) : Reader α := refuse (t.name ++ " unexpected")

/-- Refuses a token where another one was to stand. -/
def expected {α : Type} (wanted : String) (t : Token) : Reader α :=
  refuse (t.name ++ " unexpected (expecting " ++ wanted ++ ")")

/-- Goes over the rest of a line. -/
def skipLine : Reader Unit := modify fun s => { s with rest := s.rest.dropWhile (· ≠ '\n') }

/-- The operator of a redirection behind its first character. -/
def redirectionFrom (c : Char) : Reader Text := do
  if c = '>' then
    if ← takeIf '>' then return ['>', '>']
    else if ← takeIf '|' then return ['>', '|']
    else if ← takeIf '&' then return ['>', '&']
    else return ['>']
  else if ← takeIf '<' then
    if ← takeIf '-' then return ['<', '<', '-'] else return ['<', '<']
  else if ← takeIf '&' then return ['<', '&']
  else if ← takeIf '>' then return ['<', '>']
  else return ['<']

/-- The stream that a word in front of a redirection means; none if it means nothing like that. -/
def streamOf? : Word → Option (Option Nat)
  | [] => some none
  | [.text false [c]] => if c.isDigit then some (some (c.toNat - 48)) else none
  | _ => none

/-- Reads a word, or the redirection that it belongs to. -/
def wordToken (nested : Bool → Reader Unit) (verbatim : Bool) : Reader Token := do
  let w ← readWord nested verbatim
  match (← get).rest with
  | c :: _ =>
    if c = '<' || c = '>' then
      match streamOf? w with
      | some stream => do
        discard next?
        return .redirection stream (← redirectionFrom c)
      | none => return .word w
    else return .word w
  | [] => return .word w

/-- Reads the next token as it is written. -/
def rawToken (nested : Bool → Reader Unit) (verbatim : Bool) : Nat → Reader Token
  | 0 => return .ended
  | fuel + 1 => do
    let doubled (c : Char) : Reader Token := do
      discard next?
      if ← takeIf c then return .mark [c, c] else return .mark [c]
    match ← peek? with
    | none => return .ended
    | some c =>
      if c = ' ' || c = '\t' then do
        discard next?
        rawToken nested verbatim fuel
      else if c = '#' then do
        skipLine
        rawToken nested verbatim fuel
      else if c = '\n' then do
        discard next?
        countLine
        return .lineEnd
      else if c = '&' || c = '|' || c = ';' then doubled c
      else if c = '(' || c = ')' then do
        discard next?
        return .mark [c]
      else wordToken nested verbatim

/-- Reads the texts that redirections wait for, which start here. -/
def readAwaited (nested : Bool → Reader Unit) : Reader Unit := do
  let awaited := (← get).awaited
  modify fun s => { s with awaited := [] }
  for a in awaited do
    let w ← readDocument nested a
    modify fun s => { s with found := w :: s.found }

/-- Takes the token that has been given back, or reads the next one; tells also whether a word may
be an alias because it stands behind one. -/
def heldToken (nested : Bool → Reader Unit) (verbatim : Bool) : Reader (Token × Bool) := do
  let s ← get
  match s.held with
  | some t => do
    set { s with held := none }
    return (t, false)
  | none => do
    let t ← rawToken nested verbatim patience
    let s ← get
    let left := s.rest.length
    let isOver (b : Busy) : Bool := left < b.behind
    set { s with busy := s.busy.filter fun b => !isOver b }
    return (t, s.busy.any fun b => isOver b && b.goesOn)

/-- Puts the value of an alias in front of the rest. -/
def openAlias (name value : Text) : Reader Unit := modify fun s =>
  { s with
    rest := value ++ s.rest
    busy := ⟨name, s.rest.length,
      value.getLast? = some ' ' || value.getLast? = some '\t'⟩ :: s.busy }

/-- The value of an alias that is not being read. -/
def aliasOf? (s : Script) (name : Text) : Option Text :=
  if s.busy.any fun b => b.name = name then none else s.aliases.lookup name

/-- Reads a token with an eye on what it may be. -/
def tokenWith (nested : Bool → Reader Unit) (o : Lookout) : Nat → Reader Token
  | 0 => return .ended
  | fuel + 1 => do
    let (t, behindAlias) ← heldToken nested false
    match t with
    | .lineEnd =>
      if o.lines then do
        readAwaited nested
        tokenWith nested o fuel
      else return t
    | .word w =>
      match plain? w with
      | none => return t
      | some name =>
        if o.keywords && name ∈ keywords then return .mark name
        else if o.aliases || behindAlias then
          match aliasOf? (← get) name with
          | none => return t
          | some value => do
            openAlias name value
            tokenWith nested { o with aliases := true } fuel
        else return t
    | _ => return t

/-- Reads a token with an eye on what it may be. -/
def token (nested : Bool → Reader Unit) (o : Lookout) : Reader Token :=
  tokenWith nested o patience

end Reader

end Shell
end IconAssets
