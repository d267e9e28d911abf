import IconAssets.Text.Alphanumeric

/-!
# Patterns of values

A filter may ask for fields whose value matches a pattern.  Only spans are filtered by values, and
there are no spans here, so all that matters of a pattern is whether it is well formed: a filter
with a pattern that is not is refused.

Patterns are regular expressions.  The text of a pattern holds no closing brace and no comma,
because these end the field it stands in; so a brace that opens a count or a name is never closed.
Besides its grammar a pattern obeys a limit: its parts are nested at most `deepest` levels deep.
-/

namespace IconAssets
namespace Log
namespace ValuePattern

/-- How a stretch of a pattern is read. -/
structure Mode where
  /-- Whether characters are whole, and not bytes. -/
  unicode : Bool
  /-- Whether blanks and remarks stand for nothing. -/
  loose : Bool

/-- The text behind blanks and remarks; a remark starts at a number sign and goes on to the end of
its line. -/
def behindRemarks : Bool → Text → Text
  | _, [] => []
  | true, c :: t => behindRemarks (c ≠ '\n') t
  | false, c :: t =>
    if c = '#' then behindRemarks true t
    else if Text.isBlank c then behindRemarks false t else c :: t

/-- The text behind what stands for nothing. -/
def Mode.skip (m : Mode) (t : Text) : Text := if m.loose then behindRemarks false t else t

/-- Nothing is skipped where blanks count. -/
theorem Mode.skip_of_not_loose {m : Mode} (h : m.loose = false) (t : Text) : m.skip t = t := by
  simp [Mode.skip, h]

/-- The parts that stand side by side in a pattern or in a set. -/
structure Row where
  count : Nat
  /-- The deepest nesting among all parts but the last. -/
  others : Nat
  /-- The nesting of the last part. -/
  last : Nat

/-- A row without parts. -/
def Row.empty : Row := ⟨0, 0, 0⟩

/-- A row with one more part. -/
def Row.push (r : Row) (depth : Nat) : Row := ⟨r.count + 1, max r.others r.last, depth⟩

/-- The nesting of a row: two parts and more take a level of their own. -/
def Row.depth (r : Row) : Nat := if r.count ≤ 1 then r.last else max r.others r.last + 1

/-- The nesting of a row behind others of a choice, or of a set behind the left side of an
operator. -/
def Row.behind (r : Row) : Option Nat → Nat
  | none => r.depth
  | some before => max before r.depth + 1

/-- The deepest nesting that a pattern may have. -/
def deepest : Nat := 250

/-- The characters that have a meaning of their own somewhere in a pattern. -/
def marks : Text :=
  ['\\', '.', '+', '*', '?', '(', ')', '|', '[', ']', '\x7b', '\x7d', '^', '$', '#', '&', '-', '~']

/-- Whether a backslash in front of a character only takes its meaning away. -/
def isShielded (c : Char) : Bool :=
  c ∈ marks || (c.toNat < 128 && !c.isAlphanum && c ≠ '<' && c ≠ '>')

/-- The value of a hexadecimal digit. -/
def hexDigit? (c : Char) : Option Nat :=
  if c.isDigit then some (c.toNat - 48)
  else if 'a' ≤ c.toLower && c.toLower ≤ 'f' then some (c.toLower.toNat - 87)
  else none

/-- What an escape stands for. -/
inductive Escape where
  | char (c : Char)
  /-- A set of characters; `wide` sets hold characters that are more than one byte. -/
  | set (wide : Bool)
  /-- A place in the text. -/
  | anchor
  /-- An edge of a word. -/
  | edge

/-- The number that so many digits spell behind others, and what follows. -/
def numberAt? (m : Mode) : Nat → Nat → Text → Option (Nat × Text)
  | 0, n, t => some (n, t)
  | digits + 1, n, t =>
    match m.skip t with
    | [] => none
    | c :: u => (hexDigit? c).bind fun d => numberAt? m digits (16 * n + d) u

/-- The character whose code point is spelled by so many digits, and what follows.  Two digits
spell a byte where characters are bytes, and a byte of a longer character is none by itself. -/
def codePointAt? (m : Mode) (digits : Nat) (t : Text) : Option (Escape × Text) :=
  match numberAt? m digits 0 t with
  | none => none
  | some (n, u) =>
    if n.isValidChar && (digits ≠ 2 || m.unicode || n < 128) then some (.char (Char.ofNat n), u)
    else none

/-- The escape behind a backslash, and what follows. -/
def escapeAt? (m : Mode) : Text → Option (Escape × Text)
  | [] => none
  | c :: t =>
    if isShielded c then some (.char c, t)
    else
      match c with
      | 'a' => some (.char '\x07', t)
      | 'f' => some (.char '\x0c', t)
      | 't' => some (.char '\t', t)
      | 'n' => some (.char '\n', t)
      | 'r' => some (.char '\r', t)
      | 'v' => some (.char '\x0b', t)
      | 'x' => codePointAt? m 2 t
      | 'u' => codePointAt? m 4 t
      | 'U' => codePointAt? m 8 t
      | 'd' | 's' | 'w' => some (.set false, t)
      | 'D' | 'S' | 'W' => some (.set true, t)
      | 'p' | 'P' =>
        match m.skip t with
        | d :: u => if m.unicode && d.toLower ∈ "clmnpsz".toList then some (.set true, u) else none
        | [] => none
      | 'A' | 'z' => some (.anchor, t)
      | 'b' | 'B' | '<' | '>' => some (.edge, t)
      | _ => none

/-- The names of the sets that can be named inside brackets. -/
def setNames : List Text :=
  ["alnum", "alpha", "ascii", "blank", "cntrl", "digit", "graph", "lower", "print", "punct",
    "space", "upper", "word", "xdigit"].map String.toList

/-- The text behind the named set at its start, and whether the set is turned around. -/
def behindName? (t : Text) : Option (Bool × Text) :=
  match t with
  | '[' :: ':' :: u =>
    let negated : Bool := u.head? = some '^'
    let u := if negated then u.drop 1 else u
    let name := u.takeWhile (· ≠ ':')
    if name ∈ setNames && [':', ']'].isPrefixOf (u.drop name.length) then
      some (negated, u.drop (name.length + 2))
    else none
  | _ => none

/-- How many hyphens open a set, and the text behind them; each call takes a character. -/
def behindHyphens (m : Mode) : Nat → Text → Nat × Text
  | fuel + 1, '-' :: t =>
    let (n, u) := behindHyphens m fuel (m.skip t)
    (n + 1, u)
  | _, t => (0, t)

/-- What stands at the opening of a set: whether a sign turns it around, how many of its members
have been read, hyphens or a closing bracket that stands for itself, and the text behind these. -/
def openSet (m : Mode) (t : Text) : Bool × Nat × Text :=
  let u := m.skip t
  let negated : Bool := u.head? = some '^'
  let u := if negated then m.skip (u.drop 1) else u
  let (hyphens, v) := behindHyphens m u.length u
  if hyphens = 0 && v.head? = some ']' then (negated, 1, v.drop 1) else (negated, hyphens, v)

/-- One end of a range, and what follows: none of a set that is no character. -/
def memberAt? (m : Mode) : Text → Option (Option Char × Text)
  | '\\' :: t =>
    match escapeAt? m t with
    | some (.char c, u) => if m.unicode || c.toNat < 128 then some (some c, u) else none
    | some (.set wide, u) => if wide && !m.unicode then none else some (none, u)
    | _ => none
  | c :: t => if m.unicode || c.toNat < 128 then some (some c, t) else none
  | [] => none

/-- Whether the hyphen in front of a text is a member of a set and makes no range: a closing
bracket or a hyphen follows, of which only blanks and the sign of a remark are skipped. -/
def isLoneHyphen (m : Mode) (t : Text) : Bool :=
  let u := if m.loose then t.dropWhile Text.isBlank else t
  let v := if m.loose && u.head? = some '#' then (u.drop 1).dropWhile Text.isBlank else u
  v.head? = some ']' || v.head? = some '-'

/-- A set that has been read up to some place: the left side of the operator in front, and the
members behind it. -/
structure OpenSet where
  left : Option Nat
  members : Row

/-- The text behind a set, and its nesting; the sets around the innermost one are given too, and
each call takes a character. -/
def behindSet? (m : Mode) : Nat → List OpenSet → OpenSet → Text → Option (Nat × Text)
  | 0, _, _, _ => none
  | fuel + 1, outer, s, t =>
    let add (depth : Nat) : OpenSet := { s with members := s.members.push depth }
    match m.skip t with
    | [] => none
    | '[' :: u =>
      match behindName? ('[' :: u) with
      | some (negated, v) =>
        if negated && !m.unicode then none else behindSet? m fuel outer (add 0) v
      | none =>
        let (negated, n, v) := openSet m u
        if negated && !m.unicode then none
        else behindSet? m fuel (s :: outer) ⟨none, ⟨n, 0, 0⟩⟩ v
    | ']' :: u =>
      let depth := s.members.behind s.left + 1
      match outer with
      | [] => some (depth, u)
      | s :: outer => behindSet? m fuel outer { s with members := s.members.push depth } u
    | c :: u =>
      if c ∈ ['&', '-', '~'] && u.head? = some c then
        behindSet? m fuel outer ⟨some (s.members.behind s.left), Row.empty⟩ (u.drop 1)
      else
        match memberAt? m (c :: u) with
        | none => none
        | some (first, v) =>
          match m.skip v with
          | '-' :: w =>
            if isLoneHyphen m w then behindSet? m fuel outer (add 0) ('-' :: w)
            else
              match first, memberAt? m (m.skip w) with
              | some a, some (some b, x) =>
                if a ≤ b then behindSet? m fuel outer (add 0) x else none
              | _, _ => none
          | w => behindSet? m fuel outer (add 0) w

/-- A group that is open: how the pattern around it is read, the choices in front of it there, the
parts beside it. -/
structure OpenGroup where
  mode : Mode
  choices : Option Nat
  parts : Row

/-- A pattern that has been read up to some place. -/
structure Reading where
  /-- The groups that are open, the innermost first. -/
  groups : List OpenGroup
  mode : Mode
  /-- The deepest nesting among the choices in front, if there are any. -/
  choices : Option Nat
  parts : Row
  /-- Whether something stands in front that can be repeated. -/
  repeatable : Bool
  /-- The names of groups. -/
  names : List Text

/-- Nothing has been read. -/
def Reading.start : Reading := ⟨[], ⟨true, false⟩, none, Row.empty, false, []⟩

/-- The choices up to here, of which the parts in front are the last. -/
def Reading.closed (r : Reading) : Option Nat :=
  some (match r.choices with
    | none => r.parts.depth
    | some d => max d r.parts.depth)

/-- The nesting of the innermost open group. -/
def Reading.depth (r : Reading) : Nat :=
  match r.choices with
  | none => r.parts.depth
  | some d => max d r.parts.depth + 1

/-- A reading with one more part that can be repeated. -/
def Reading.part (r : Reading) (depth : Nat) : Reading :=
  { r with parts := r.parts.push depth, repeatable := true }

/-- Whether a character may start the name of a group. -/
def startsName (c : Char) : Bool := c = '_' || Text.isAlphabetic c

/-- Whether a character may stand in the name of a group. -/
def isInName (c : Char) : Bool := c = '_' || c ∈ ['.', '[', ']'] || Text.isAlphanumeric c

/-- What the switches at the start of a group say: how the pattern is read behind them, the
character that ends them and what follows.  Each switch and the sign in front of those that are
turned off may stand only once. -/
def switches? (m : Mode) (on : Bool) (seen : Text) : Text → Option (Mode × Char × Text)
  | [] => none
  | c :: t =>
    if c = ')' || c = ':' then
      if seen.head? = some '-' || (c = ')' && seen = []) then none else some (m, c, t)
    else if c ∈ seen then none
    else if c = '-' then switches? m false (c :: seen) t
    else if c = 'u' then switches? { m with unicode := on } on (c :: seen) t
    else if c = 'x' then switches? { m with loose := on } on (c :: seen) t
    else if c ∈ ['i', 'm', 's', 'U', 'R'] then switches? m on (c :: seen) t
    else none

/-- The text behind the name of a group, which is not among others, and the name. -/
def nameAt? (names : List Text) (t : Text) : Option (Text × Text) :=
  let name := t.takeWhile isInName
  match t.drop name.length with
  | '>' :: u => if name.head?.any startsName && name ∉ names then some (name, u) else none
  | _ => none

/-- Whether a pattern that has been read up to some place goes on well; each call takes a
character. -/
def goesOn : Nat → Reading → Text → Bool
  | 0, _, _ => false
  | fuel + 1, r, t =>
    let group (mode : Mode) (names : List Text) (u : Text) : Bool :=
      goesOn fuel ⟨⟨r.mode, r.choices, r.parts⟩ :: r.groups, mode, none, Row.empty, false, names⟩ u
    let item (u : Text) : Bool := goesOn fuel (r.part 0) u
    match r.mode.skip t with
    | [] => r.groups.isEmpty && r.depth ≤ deepest
    | '(' :: t =>
      match r.mode.skip t with
      | '?' :: u =>
        let named := if ['P', '<'].isPrefixOf u then some (u.drop 2)
          else if u.head? = some '<' then some (u.drop 1) else none
        match named with
        | some v =>
          match nameAt? r.names v with
          | some (name, w) => group r.mode (name :: r.names) w
          | none => false
        | none =>
          match switches? r.mode true [] u with
          | none => false
          | some (mode, last, v) =>
            if last = ':' then group mode r.names v
            else goesOn fuel { r with mode, parts := r.parts.push 0, repeatable := false } v
      | u => group r.mode r.names u
    | ')' :: t =>
      match r.groups with
      | [] => false
      | g :: groups =>
        let outside : Reading := ⟨groups, g.mode, g.choices, g.parts, false, r.names⟩
        goesOn fuel (outside.part (r.depth + 1)) t
    | '|' :: t =>
      goesOn fuel { r with choices := r.closed, parts := Row.empty, repeatable := false } t
    | '[' :: t =>
      let (negated, n, u) := openSet r.mode t
      if negated && !r.mode.unicode then false
      else
        match behindSet? r.mode (t.length + 1) [] ⟨none, ⟨n, 0, 0⟩⟩ u with
        | none => false
        | some (depth, v) => goesOn fuel (r.part depth) v
    | '\x7b' :: _ => false
    | '\\' :: t =>
      match escapeAt? r.mode t with
      | some (.set wide, u) => (r.mode.unicode || !wide) && item u
      | some (.edge, u) => !r.mode.unicode && item u
      | some (_, u) => item u
      | none => false
    | '.' :: t => r.mode.unicode && item t
    | c :: t =>
      if c ∈ ['?', '*', '+'] then
        let parts := { r.parts with last := r.parts.last + 1 }
        r.repeatable &&
          goesOn fuel { r with parts } (if t.head? = some '?' then t.drop 1 else t)
      else item t

/-- Whether a text is a number behind a plus sign, which is no pattern but a value. -/
def isPositive : Text → Bool
  | '+' :: t =>
    let isDigits (u : Text) : Bool := u ≠ [] && u.all Char.isDigit
    let u := Text.lowerAscii t
    let whole := u.takeWhile (· ≠ 'e')
    let exponent := u.drop whole.length
    let digits := whole.filter (· ≠ '.')
    let sign := (exponent.drop 1).head?
    let power := exponent.drop (if sign = some '+' || sign = some '-' then 2 else 1)
    u ∈ ["inf".toList, "infinity".toList, "nan".toList] ||
      (isDigits digits && whole.length ≤ digits.length + 1 && (exponent = [] || isDigits power))
  | _ => false

/-- Whether a text is a value or a pattern of values. -/
def isWellFormed (t : Text) : Bool := isPositive t || goesOn (t.length + 1) Reading.start t

end ValuePattern
end Log
end IconAssets
