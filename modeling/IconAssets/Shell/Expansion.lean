import IconAssets.Shell.Job
import IconAssets.Shell.Pattern

/-!
# What words stand for

A word is replaced by what its parts stand for.  What comes from an unquoted part is split into
fields at separators, and a field that is a pattern is replaced by the paths that match it.

Separators are the characters of one variable.  Blank separators join and count for nothing at the
start of a piece; of the others each ends a field.  Between arguments there is a separator that is
like a blank, and behind quoted arguments every separator of the next piece ends a field.
-/

namespace IconAssets
namespace Shell

/-- A piece of what a word stands for. -/
inductive Piece where
  /-- Glyphs; they are split at separators if `splits` says so. -/
  | glyphs (p : Pattern) (splits : Bool)
  /-- The arguments. -/
  | values (quoted : Bool) (ps : List Pattern)

/-- Fields while they are collected, the last one first, and characters likewise. -/
structure Fields where
  complete : List Pattern
  /-- The field that has begun, if one has. -/
  current : Option Pattern
  /-- Whether a blank separator of the same piece has just ended a field. -/
  loose : Bool
  /-- Whether the last piece that could be split has been quoted arguments. -/
  firm : Bool

namespace Fields

/-- Adds glyphs to the current field. -/
def add (f : Fields) (p : Pattern) : Fields :=
  { f with current := some (p.reverse ++ f.current.getD []), loose := false }

/-- Ends the current field, even if it has not begun. -/
def cut (f : Fields) : Fields :=
  { f with complete := (f.current.getD []).reverse :: f.complete, current := none }

/-- Adds a separator; where all of them are hard, each ends a field. -/
def separate (f : Fields) (isHard isBlank : Bool) : Fields :=
  if f.loose then { f with loose := isBlank }
  else if isHard || !isBlank then f.cut
  else if f.current.isSome then { f.cut with loose := true }
  else f

/-- Adds glyphs that are split at separators. -/
def addSplit (separators : Text) (isHard : Bool) (f : Fields) (p : Pattern) : Fields :=
  p.foldl (fun f g =>
    if g.char ∈ separators then f.separate isHard (g.char = ' ' || g.char = '\t' || g.char = '\n')
    else f.add [g]) f

/-- Adds arguments. -/
def addValues (separators : Text) (isHard quoted : Bool) : Fields → List Pattern → Fields
  | f, [] => f
  | f, p :: ps =>
    let f := if !quoted then addSplit separators isHard f p else if p.isEmpty then f else f.add p
    if ps.isEmpty then f else addValues separators isHard quoted (f.separate isHard true) ps

/-- Adds a piece. -/
def addPiece (separators : Text) (f : Fields) : Piece → Fields
  | .glyphs p false => f.add p
  | .glyphs p true => addSplit separators f.firm { f with loose := false, firm := false } p
  | .values quoted ps =>
    addValues separators (f.firm || quoted) quoted { f with loose := false, firm := quoted } ps

/-- The fields of pieces. -/
def ofPieces (separators : Text) (ps : List Piece) : List Pattern :=
  let f := ps.foldl (addPiece separators) ⟨[], none, false, false⟩
  (if f.firm || f.current.isSome then f.cut else f).complete.reverse

end Fields

namespace Piece

/-- What pieces stand for where nothing is split, given what stands between arguments. -/
def join (between : Text) (ps : List Piece) : Pattern :=
  ps.flatMap fun p =>
    match p with
    | .glyphs g _ => g
    | .values _ ps => ps.intersperse (Pattern.ofText true between) |>.flatten

/-- The piece of a value. -/
def ofValue (quoted : Bool) (t : Text) : Piece := .glyphs (Pattern.ofText quoted t) (!quoted)

/-- A piece inside another part of a word.  Of a text only the unquoted stretches are split. -/
def within (quoted : Bool) : Piece → List Piece
  | .values inner ps =>
    if !quoted then [.values inner ps]
    else if ps.isEmpty then []
    else [.values true (ps.map fun p => p.map fun g => { g with quoted := true })]
  | .glyphs p splits =>
    if quoted then [.glyphs (p.map fun g => { g with quoted := true }) false]
    else if splits || p.isEmpty then [.glyphs p splits]
    else (p.splitBy fun g h => g.quoted == h.quoted).map fun run =>
      .glyphs run (run.any fun g => !g.quoted)

/-- The pieces of the arguments. -/
def ofValues (quoted : Bool) (ts : List Text) : List Piece :=
  if quoted && ts.isEmpty then [] else [.values quoted (ts.map (Pattern.ofText quoted))]

end Piece

/-- The variable with the separators. -/
def separatorVariable : Text := "IFS".toList

/-- The separators of a shell. -/
def separatorsOf (s : State) : Text :=
  match s.variableOf? separatorVariable with
  | some ⟨some t, _, _⟩ => t
  | _ => [' ', '\t', '\n']

/-- What stands between fields where nothing is split: the first separator. -/
def betweenFields (s : State) : Text := (separatorsOf s).take 1

/-- The arguments in one text. -/
def joinedArguments (s : State) : Text :=
  match betweenFields s with
  | [] => s.arguments.flatten
  | c :: _ => Text.glue c s.arguments

/-- What pieces stand for where nothing is split. -/
def joined (ps : List Piece) : Act Pattern := return Piece.join (betweenFields (← get)) ps

/-- The words for a sum that has no value. -/
def sumlessWords (expression : Text) : Sumless → Text
  | .expression message =>
    say ("arithmetic expression: " ++ message ++ ": \"") ++ expression ++ ['"']
  | .value t => say "Illegal number: " ++ t

/-- Evaluates an expression. -/
def evaluateSum (env : Environment) (expression : Text) : Act Int := do
  let s ← get
  match evaluate (fun name => (s.valueOf? env name).getD []) expression with
  | .error e => Act.refuse (sumlessWords expression e)
  | .ok (i, assigned) => do
    for (name, i) in assigned do
      Act.assign env name (toString i).toList
    return i

/-- The value of a parameter; the option for it refuses one that has none. -/
def requireValue (env : Environment) (name : Text) : Act Text := do
  let s ← get
  match s.parameter? env name with
  | some t => return t
  | none =>
    if s.has .nounset && name ≠ ['@'] && name ≠ ['*'] then
      Act.refuse (name ++ say ": parameter not set")
    else return []

/-- The pieces of a value. -/
def valuePieces (env : Environment) (quoted : Bool) (name : Text) : Act (List Piece) := do
  let s ← get
  if name = ['@'] || (name = ['*'] && !quoted) then return Piece.ofValues quoted s.arguments
  else if name = ['*'] then return [.ofValue true (joinedArguments s)]
  else return [.ofValue quoted (← requireValue env name)]

/-- The size of a value. -/
def sizeOf (env : Environment) (name : Text) : Act Nat := do
  if name = ['@'] || name = ['*'] then
    return (Text.glue ' ' (← get).arguments).length
  else return (← requireValue env name).length

mutual

/-- The pieces that a word stands for; `script` runs a script. -/
def expandWord (env : Environment) (script : Nat → Text → Act Unit) : List Part → Act (List Piece)
  | [] => return []
  | p :: w => do
    let first ← expandPart env script p
    let more ← expandWord env script w
    return first ++ more

/-- The pieces that a part of a word stands for. -/
def expandPart (env : Environment) (script : Nat → Text → Act Unit) : Part → Act (List Piece)
  | .text quoted t => return [.glyphs (Pattern.ofText quoted t) false]
  | .value quoted name => valuePieces env quoted name
  | .size quoted name => return [.ofValue quoted (Text.ofNat (← sizeOf env name))]
  | .remedied quoted name remedy emptyIsNone word => do
    let there := match (← get).parameter? env name with
      | none => false
      | some v => !(emptyIsNone && v.isEmpty)
    match remedy, there with
    | .standInIfSet, false => return [.ofValue quoted []]
    | .standIn, true | .assign, true | .complain, true => valuePieces env quoted name
    | .standIn, false | .standInIfSet, true => do
      let ps ← expandWord env script word
      return if quoted && ps.isEmpty then [.ofValue true []] else ps.flatMap (Piece.within quoted)
    | .assign, false => do
      let ps ← expandWord env script word
      let t := (← joined ps).text
      if !isName name then Act.refuse (name ++ say ": bad variable name")
      else
        Act.assign env name t
        return [.ofValue quoted t]
    | .complain, false => do
      let ps ← expandWord env script word
      let t := (← joined ps).text
      Act.refuse (name ++ say ": " ++
        if t.isEmpty then say (if emptyIsNone then "parameter not set or null" else "parameter not set")
        else t)
  | .trimmed quoted name cut pattern => do
    let s ← get
    let several : Bool := name = ['@'] || (name = ['*'] && !quoted)
    let values ← if several then pure s.arguments
      else if name = ['*'] then pure [joinedArguments s]
      else pure [← requireValue env name]
    let ps ← expandWord env script pattern
    let p ← joined ps
    if several then return Piece.ofValues quoted (Pattern.trimAll p cut.atEnd cut.longest values)
    else return values.map fun t => .ofValue quoted (Pattern.trim p cut.atEnd cut.longest t)
  | .output quoted line text => do
    return [.ofValue quoted (← Act.captured (script line text))]
  | .sum quoted expression => do
    let ps ← expandWord env script expression
    let t := (← joined ps).text
    return [.ofValue quoted (toString (← evaluateSum env t)).toList]
  | .malformed => Act.refuse (say "Bad substitution")

end

/-- The pattern that a word stands for where nothing is split. -/
def expandPattern (env : Environment) (script : Nat → Text → Act Unit) (w : Word) : Act Pattern :=
  expandWord env script w >>= joined

/-- The text that a word stands for where nothing is split. -/
def expandText (env : Environment) (script : Nat → Text → Act Unit) (w : Word) : Act Text :=
  return (← expandPattern env script w).text

/-- The fields that a word stands for. -/
def expandFields (env : Environment) (script : Nat → Text → Act Unit) (w : Word) :
    Act (List Text) := do
  let ps ← expandWord env script w
  let s ← get
  let fields := Fields.ofPieces (separatorsOf s) ps
  return if s.has .noglob then fields.map Pattern.text else fields.flatMap (Pattern.paths s.disk)

/-- The fields that words stand for. -/
def expandAll (env : Environment) (script : Nat → Text → Act Unit) :
    List Word → Act (List Text)
  | [] => return []
  | w :: ws => do
    let first ← expandFields env script w
    let more ← expandAll env script ws
    return first ++ more

end Shell
end IconAssets
