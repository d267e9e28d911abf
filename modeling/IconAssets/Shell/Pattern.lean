import IconAssets.Shell.Octet
import IconAssets.Shell.Volume.Basic

/-!
# Shell patterns

A pattern is a row of glyphs.  A glyph that is quoted stands for itself; otherwise a star stands
for any text, a question mark for any character, and a set in brackets for one of its characters.

Patterns are matched with whole texts, cut off at one end of a text, and looked for among the paths
of a volume.
-/

namespace IconAssets
namespace Shell

/-- A character of a word, and whether it is quoted. -/
structure Glyph where
  char : Char
  quoted : Bool
  deriving DecidableEq, Repr

/-- A row of glyphs. -/
abbrev Pattern := List Glyph

namespace Pattern

/-- The glyphs of a text. -/
def ofText (quoted : Bool) (t : Text) : Pattern := t.map fun c => ⟨c, quoted⟩

/-- The text of a pattern. -/
def text (p : Pattern) : Text := p.map (·.char)

/-- Whether a glyph is a certain character with a meaning of its own. -/
def isMark (g : Glyph) (c : Char) : Bool := !g.quoted && g.char = c

/-- Whether a pattern may stand for other texts than its own. -/
def isOpen (p : Pattern) : Bool := p.any fun g => isMark g '*' || isMark g '?' || isMark g '['

/-- The named sets. -/
def classes : List (String × (Char → Bool)) :=
  [("alnum", Char.isAlphanum), ("alpha", Char.isAlpha), ("blank", fun c => c = ' ' || c = '\t'),
    ("digit", Char.isDigit), ("lower", Char.isLower), ("upper", Char.isUpper),
    ("space", fun c => c = ' ' || ('\t' ≤ c && c ≤ '\r')),
    ("punct", fun c => '!' ≤ c && c ≤ '~' && !c.isAlphanum),
    ("xdigit", fun c => c.isDigit || ('a' ≤ c && c ≤ 'f') || ('A' ≤ c && c ≤ 'F'))]

/-- The named set at the start of a set, and what follows. -/
def classAt? (p : Pattern) : Option ((Char → Bool) × Pattern) :=
  if text (p.take 2) = ['[', ':'] then
    let name := text ((p.drop 2).takeWhile fun g => g.char ≠ ':')
    let rest := p.drop (name.length + 2)
    if text (rest.take 2) = [':', ']'] then
      (classes.lookup (String.ofList name)).map fun f => (f, rest.drop 2)
    else none
  else none

/-- The characters in a set up to its closing bracket, and what follows. -/
def members? : Nat → Bool → Pattern → Option ((Char → Bool) × Pattern)
  | 0, _, _ => none
  | _ + 1, _, [] => none
  | fuel + 1, first, g :: p =>
    if isMark g ']' && !first then some (fun _ => false, p)
    else
      match classAt? (g :: p) with
      | some (f, rest) =>
        (members? fuel false rest).map fun r => (fun c => f c || r.1 c, r.2)
      | none =>
        match p with
        | dash :: last :: rest =>
          if isMark dash '-' && !isMark last ']' then
            (members? fuel false rest).map fun r =>
              (fun c => (g.char ≤ c && c ≤ last.char) || r.1 c, r.2)
          else (members? fuel false p).map fun r => (fun c => c = g.char || r.1 c, r.2)
        | _ => (members? fuel false p).map fun r => (fun c => c = g.char || r.1 c, r.2)

/-- The set behind an opening bracket, and what follows. -/
def set? (p : Pattern) : Option ((Char → Bool) × Pattern) :=
  match p with
  | g :: q =>
    if isMark g '!' || isMark g '^' then
      (members? p.length true q).map fun r => (fun c => !r.1 c, r.2)
    else members? (p.length + 1) true p
  | [] => none

/-- Whether a text matches a pattern; each call takes a glyph or a character. -/
def matchesFrom : Nat → Pattern → Text → Bool
  | 0, _, _ => false
  | _ + 1, [], t => t = []
  | fuel + 1, g :: p, t =>
    if isMark g '*' then
      matchesFrom fuel p t ||
        match t with
        | [] => false
        | _ :: u => matchesFrom fuel (g :: p) u
    else
      match t with
      | [] => false
      | c :: u =>
        if isMark g '?' then matchesFrom fuel p u
        else
          match (if isMark g '[' then set? p else none) with
          | some (f, rest) => f c && matchesFrom fuel rest u
          | none => g.char = c && matchesFrom fuel p u

/-- Whether a text matches a pattern. -/
def matchesText (p : Pattern) (t : Text) : Bool := matchesFrom (p.length + t.length + 1) p t

/-- A text without the start or the end that matches a pattern, if there is one: the shortest or
the longest such part. -/
def trim (p : Pattern) (atEnd longest : Bool) (t : Text) : Text :=
  let sizes := List.range (t.length + 1)
  let sizes := if longest then sizes.reverse else sizes
  if atEnd then
    match sizes.find? fun n => matchesText p (t.drop (t.length - n)) with
    | some n => t.take (t.length - n)
    | none => t
  else
    match sizes.find? fun n => matchesText p (t.take n) with
    | some n => t.drop n
    | none => t

/-- Texts that are trimmed as one.  Where a longest part is looked for, only the first text counts; the
shortest end is that of the last text that has one.  Texts behind a trimmed end, and those behind a
first text that is a longest start as a whole, go with it. -/
def trimAll (p : Pattern) (atEnd longest : Bool) : List Text → List Text
  | [] => [[]]
  | t :: ts =>
    if atEnd then
      if longest then if hasEnd t then [trim p true true t] else t :: ts
      else (fromLast (t :: ts)).getD (t :: ts)
    else if longest && matchesText p t then [[]]
    else trim p false longest t :: ts
where
  /-- Whether a text has an end that matches the pattern. -/
  hasEnd (t : Text) : Bool :=
    (List.range (t.length + 1)).any fun n => matchesText p (t.drop n)
  /-- The texts up to the last one with such an end, without that end. -/
  fromLast : List Text → Option (List Text)
    | [] => none
    | t :: ts =>
      match fromLast ts with
      | some us => some (t :: us)
      | none => if hasEnd t then some [trim p true false t] else none

theorem trimAll_singleton (p : Pattern) (t : Text) :
    trimAll p false false [t] = [trim p false false t] := by
  simp [trimAll]

/-- The pieces of a pattern between its slashes. -/
def pieces : Pattern → List Pattern
  | [] => [[]]
  | g :: p =>
    if g.char = '/' then [] :: pieces p
    else
      match pieces p with
      | [] => [[g]]
      | q :: qs => (g :: q) :: qs

/-- The path that a text inside a shell names. -/
def pathOf (t : Text) : Path := ⟨toText t⟩

/-- The paths that begin with a text and go on with the pieces of a pattern. -/
def pathsFrom (d : Volume) : Text → List Pattern → List Text
  | _, [] => []
  | start, [p] =>
    if isOpen p then names start p
    else if d.hasObject (pathOf (start ++ text p)) then [start ++ text p]
    else []
  | start, p :: q :: ps =>
    if isOpen p then (names start p).flatMap fun t => pathsFrom d (t ++ ['/']) (q :: ps)
    else pathsFrom d (start ++ text p ++ ['/']) (q :: ps)
where
  /-- The names in a folder that match a piece, behind the path of the folder. -/
  names (start : Text) (p : Pattern) : List Text :=
    match d.resolve (if start = [] then ⟨['.']⟩ else pathOf start) with
    | .error _ => []
    | .ok place =>
      let names := ['.'] :: ['.', '.'] :: (d.children place).map Shell.ofText
      (names.filter fun n =>
        (n.head? ≠ some '.' || p.head?.map (·.char) = some '.') && matchesText p n).map (start ++ ·)

/-- The paths that a pattern stands for, in order: its own text if there are none. -/
def paths (d : Volume) (p : Pattern) : List Text :=
  match if isOpen p then Text.sortOnce (pathsFrom d [] (pieces p)) else [] with
  | [] => [text p]
  | found => found

end Pattern

end Shell
end IconAssets
