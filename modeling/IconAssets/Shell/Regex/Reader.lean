import IconAssets.Shell.Pattern
import IconAssets.Shell.Regex.Basic
import IconAssets.Text.Alphanumeric

/-!
# Reading regular expressions

An expression is a row of pieces; a piece may be repeated, and rows stand beside each other as
alternatives.  There are two ways of writing: the basic one, where a backslash gives brackets,
braces and bars their meaning, and the extended one, where it takes it away.  The ways differ too in
what a repetition is that has nothing in front of it, and in how strictly braces are read.
-/

namespace IconAssets
namespace Shell
namespace Regex

/-- Why a text is no expression. -/
inductive Fault where
  | openGroup
  | unopenedGroup
  | openSet
  | emptySet
  | bareClass
  | unknownClass
  | collation
  | range
  | trailingBackslash
  | reference
  | openCount
  | badCount
  | repetition
  | tooBig
  deriving DecidableEq, Repr

/-- The text of a fault. -/
def Fault.message : Fault → String
  | .openGroup => "Unmatched ( or \\("
  | .unopenedGroup => "Unmatched ) or \\)"
  | .openSet => "Unmatched [, [^, [:, [., or [="
  | .emptySet => "Invalid regular expression"
  | .bareClass => "character class syntax is [[:space:]], not [:space:]"
  | .unknownClass => "Invalid character class name"
  | .collation => "Invalid collation character"
  | .range => "Invalid range end"
  | .trailingBackslash => "Trailing backslash"
  | .reference => "Invalid back reference"
  | .openCount => "Unmatched \\\x7b"
  | .badCount => "Invalid content of \\\x7b\\\x7d"
  | .repetition => "Invalid preceding regular expression"
  | .tooBig => "Regular expression too big"

/-- What a repetition with nothing in front of it is. -/
inductive Loose where
  | literal
  | skipped
  | refused
  deriving DecidableEq

/-- A way of writing expressions. -/
structure Manner where
  extended : Bool
  looseStar : Loose
  looseBrace : Loose
  /-- Whether a star or a brace behind a repetition is refused. -/
  refusesDouble : Bool
  /-- Whether a brace that opens no count stands for itself. -/
  keepsBraces : Bool
  /-- Whether a bracket that closes no group stands for itself. -/
  keepsClosing : Bool
  /-- Whether the name of a set must have brackets of its own. -/
  refusesBareClass : Bool
  /-- Whether a backslash has its meaning in sets. -/
  escapesInSets : Bool
  /-- Whether letters behind a backslash stand for sets and places, and digits for groups. -/
  hasShorthands : Bool
  ignoresCase : Bool
  /-- Whether lines start and stop inside the text. -/
  perLine : Bool

/-- The characters of a text of octets. -/
def units (utf8 : Bool) (t : Text) : List Spelled :=
  if utf8 then spelled true t else t.map fun c => ⟨[c], some c⟩

/-- Whether a unit is a certain character. -/
def isUnit (u : Spelled) (c : Char) : Bool := u.char = some c

/-- The small letter of a character, for the letters of Latin, Greek and Cyrillic texts. -/
def lowered (c : Char) : Char :=
  let n := c.toNat
  if n < 128 then c.toLower
  else if (0xc0 ≤ n && n ≤ 0xde && n ≠ 0xd7) || (0x391 ≤ n && n ≤ 0x3a9) || (0x410 ≤ n && n ≤ 0x42f) then
    Char.ofNat (n + 32)
  else if 0x400 ≤ n && n ≤ 0x40f then Char.ofNat (n + 80)
  else c

/-- The capital letter of a character, for the letters of Latin, Greek and Cyrillic texts. -/
def raised (c : Char) : Char :=
  let n := c.toNat
  if n < 128 then c.toUpper
  else if 32 ≤ n && lowered (Char.ofNat (n - 32)) = c then Char.ofNat (n - 32)
  else if 0x450 ≤ n && n ≤ 0x45f then Char.ofNat (n - 80)
  else c

/-- Whether two units are the same, by a manner. -/
def Manner.same (m : Manner) (u v : Spelled) : Bool :=
  u.octets = v.octets ||
    (m.ignoresCase && u.char.isSome && u.char.map lowered = v.char.map lowered)

/-- Whether a unit is a character that more than one octet spells. -/
def isWide (u : Spelled) : Bool := u.char.isSome && 1 < u.octets.length

/-- Whether a unit is in a named set, if there is a set of that name. -/
def inClass? (name : String) : Option (Spelled → Bool) :=
  let wide : Option (Char → Bool) :=
    [("alnum", Text.isAlphanumeric), ("alpha", Text.isAlphanumeric), ("space", Text.isBlank),
      ("punct", fun c => !Text.isAlphanumeric c && !Text.isHidden c && !Text.isBlank c),
      ("print", fun c => !Text.isHidden c || Text.isBlank c),
      ("graph", fun c => !Text.isHidden c && !Text.isBlank c)].lookup name
  let narrow : Option (Char → Bool) :=
    (Pattern.classes ++ [("cntrl", fun c => c < ' ' || c = '\x7f'),
      ("print", fun c => ' ' ≤ c && c ≤ '~'), ("graph", fun c => '!' ≤ c && c ≤ '~')]).lookup name
  narrow.map fun f u =>
    u.char.any fun c => if isWide u then wide.any fun g => g c else c.toNat < 128 && f c

/-- Whether a unit is part of a word. -/
def isWordUnit (u : Spelled) : Bool := isUnit u '_' || (inClass? "alnum").any fun f => f u

/-- A member of a set: one unit, or a named set. -/
inductive Member where
  | one (u : Spelled)
  | class (f : Spelled → Bool)

/-- What stands in brackets up to a mark and a closing bracket, and what follows. -/
def bracketed? (mark : Char) : List Spelled → Option (List Spelled × List Spelled)
  | [] | [_] => none
  | u :: v :: t =>
    if isUnit u mark && isUnit v ']' then some ([], t)
    else (bracketed? mark (v :: t)).map fun r => (u :: r.1, r.2)

/-- The text of units. -/
def octetsOf (us : List Spelled) : Text := us.flatMap (·.octets)

/-- The set of a name. -/
def classOf (m : Manner) (name : Text) : Except Fault (Spelled → Bool) :=
  let name := if m.ignoresCase && (name = "upper".toList || name = "lower".toList) then "alpha"
    else String.ofList name
  match inClass? name with
  | some f => .ok f
  | none => .error .unknownClass

/-- The member at the start of a text, and what follows. -/
def member (m : Manner) (t : List Spelled) : Except Fault (Member × List Spelled) :=
  match t with
  | [] => .error .openSet
  | ⟨_, some '['⟩ :: ⟨_, some ':'⟩ :: t =>
    match bracketed? ':' t with
    | none => .error .openSet
    | some (name, rest) => (classOf m (octetsOf name)).map fun f => (.class f, rest)
  | ⟨_, some '['⟩ :: ⟨_, some '.'⟩ :: t =>
    match bracketed? '.' t with
    | none => .error .openSet
    | some ([u], rest) => .ok (.one u, rest)
    | some _ => .error .collation
  | ⟨_, some '['⟩ :: ⟨_, some '='⟩ :: t =>
    match bracketed? '=' t with
    | none => .error .openSet
    | some ([u], rest) => .ok (.class (m.same u), rest)
    | some _ => .error .collation
  | ⟨o, some '\\'⟩ :: u :: t =>
    if m.escapesInSets then .ok (.one u, t) else .ok (.one ⟨o, some '\\'⟩, u :: t)
  | u :: t => .ok (.one u, t)

/-- Whether a unit lies between two others. -/
def between (m : Manner) (first last u : Spelled) : Bool :=
  match first.char, last.char, u.char with
  | some a, some b, some c =>
    (a ≤ c && c ≤ b) ||
      (m.ignoresCase && ((a ≤ c.toLower && c.toLower ≤ b) || (a ≤ c.toUpper && c.toUpper ≤ b)))
  | _, _, _ => false

/-- The units in a set up to its closing bracket, and what follows; each call takes a member. -/
def members (m : Manner) : Nat → Bool → List Spelled →
    Except Fault ((Spelled → Bool) × List Spelled)
  | 0, _, _ => .error .openSet
  | fuel + 1, isFirst, t => do
    match t with
    | [] => .error .openSet
    | u :: rest =>
      if isUnit u ']' && !isFirst then return (fun _ => false, rest)
      if isUnit u '-' && !isFirst && !(rest.head?.any (isUnit · ']')) then throw .range
      let (first, rest) ← member m t
      let single : Spelled → Bool :=
        match first with
        | .one u => m.same u
        | .class f => f
      match rest with
      | ⟨_, some '-'⟩ :: v :: after =>
        if isUnit v ']' then
          let r ← members m fuel false rest
          return (fun u => single u || r.1 u, r.2)
        let (last, rest) ← member m (v :: after)
        match first, last with
        | .one a, .one b =>
          if (match a.char, b.char with
            | some a, some b => decide (b < a)
            | _, _ => true) then throw .range
          let r ← members m fuel false rest
          return (fun u => between m a b u || r.1 u, r.2)
        | _, _ => throw .range
      | rest =>
        let r ← members m fuel false rest
        return (fun u => single u || r.1 u, r.2)

/-- Whether a set holds only the name of a set between colons. -/
def isBareClass (t : List Spelled) : Bool :=
  match t with
  | ⟨_, some ':'⟩ :: t =>
    let name := t.takeWhile fun u => !isUnit u ']'
    name.length < t.length && 2 ≤ name.length && name.getLast?.any (isUnit · ':')
  | _ => false

/-- The set behind an opening bracket, and what follows. -/
def set (m : Manner) (t : List Spelled) : Except Fault ((Spelled → Bool) × List Spelled) :=
  match t with
  | [] => .error .emptySet
  | ⟨_, some '^'⟩ :: t =>
    if t.isEmpty then .error .emptySet
    else (members m (t.length + 1) true t).map fun r => (fun u => u.char.isSome && !r.1 u, r.2)
  | t =>
    if m.refusesBareClass && isBareClass t then .error .bareClass
    else members m (t.length + 1) true t

/-- A number in braces. -/
inductive Bound where
  | missing
  | bad
  | number (n : Nat)
  deriving DecidableEq

/-- How a number in braces ends. -/
inductive BoundEnd where
  | closed
  | comma
  | ended
  deriving DecidableEq

/-- The greatest number of repetitions. -/
def mostRepetitions : Nat := 32767

/-- The number at the start of a text, how it ends, and what follows. -/
def bound (m : Manner) : List Spelled → List Spelled → Bound × BoundEnd × List Spelled
  | _, [] => (.bad, .ended, [])
  | sofar, ⟨_, some ','⟩ :: t => (value sofar, .comma, t)
  | sofar, u :: t =>
    if m.extended && isUnit u '\x7d' then (value sofar, .closed, t)
    else if !m.extended && isUnit u '\\' && t.head?.any (isUnit · '\x7d') then
      (value sofar, .closed, t.tail)
    else bound m (sofar ++ [u]) t
where
  /-- The value of digits. -/
  value (us : List Spelled) : Bound :=
    if us = [] then .missing
    else
      match us.mapM fun u => u.char.filter Char.isDigit with
      | some digits =>
        .number (digits.foldl (fun n d => min (mostRepetitions + 1) (n * 10 + (d.toNat - 48))) 0)
      | none => .bad

/-- The count behind an opening brace and what follows, if there is a count. -/
def count (m : Manner) (t : List Spelled) :
    Except Fault (Option (Nat × Option Nat × List Spelled)) :=
  let fault (e : BoundEnd) : Except Fault (Option (Nat × Option Nat × List Spelled)) :=
    if m.keepsBraces then .ok none else .error (if e = .ended then .openCount else .badCount)
  let counted (least : Nat) (most : Option Nat) (rest : List Spelled) :
      Except Fault (Option (Nat × Option Nat × List Spelled)) :=
    if most.any (· < least) then .error .badCount
    else if mostRepetitions < most.getD least then .error .tooBig
    else .ok (some (least, most, rest))
  let upTo (least : Nat) (t : List Spelled) : Except Fault (Option (Nat × Option Nat × List Spelled)) :=
    match bound m [] t with
    | (.bad, e, _) => fault e
    | (.missing, .closed, rest) => counted least none rest
    | (.number n, .closed, rest) => counted least (some n) rest
    | _ => .error .badCount
  match bound m [] t with
  | (.bad, e, _) => fault e
  | (.missing, .comma, rest) => upTo 0 rest
  | (.missing, _, _) => .error .badCount
  | (.number n, .comma, rest) => upTo n rest
  | (.number n, _, rest) => counted n (some n) rest

/-- What may be done with a piece. -/
inductive Role where
  | anchor
  | plain
  | repeated
  deriving DecidableEq

/-- A group that is being read: its rows up to the last bar, and the pieces since then, the last one
first. -/
structure Frame where
  number : Nat
  before : Option Regex
  row : List (Regex × Role)

/-- The row of a group since the last bar. -/
def Frame.rowRegex (f : Frame) : Regex :=
  (f.row.foldl (fun r p =>
    some (match r with
      | none => p.1
      | some r => .both p.1 r)) none).getD .nothing

/-- All rows of a group. -/
def Frame.regex (f : Frame) : Regex :=
  match f.before with
  | none => f.rowRegex
  | some r => .either r f.rowRegex

/-- An expression that has been read, with the number of its groups and the repetitions that have
been skipped. -/
structure Reading where
  regex : Regex
  groups : Nat
  skipped : List Char

/-- An expression that is being read. -/
structure Draft where
  frame : Frame
  outer : List Frame
  opened : Nat
  closed : List Nat
  /-- The repetitions with nothing in front of them that have been skipped, the last one first. -/
  skipped : List Char

namespace Draft

/-- The draft of the empty text. -/
def start : Draft := ⟨⟨0, none, []⟩, [], 0, [], []⟩

/-- Adds a piece. -/
def add (d : Draft) (r : Regex) (role : Role) : Draft :=
  { d with frame := { d.frame with row := (r, role) :: d.frame.row } }

/-- Whether a repetition would have nothing in front of it. -/
def isLoose (d : Draft) : Bool := d.frame.row.head?.all fun p => p.2 = .anchor

/-- Opens a group. -/
def enter (d : Draft) : Draft :=
  { d with frame := ⟨d.opened + 1, none, []⟩, outer := d.frame :: d.outer, opened := d.opened + 1 }

/-- Closes a group. -/
def close? (d : Draft) : Option Draft :=
  match d.outer with
  | [] => none
  | f :: fs =>
    let closed : Draft := { d with frame := f, outer := fs, closed := d.frame.number :: d.closed }
    some (closed.add (.group d.frame.number d.frame.regex) .plain)

/-- Goes on with another row. -/
def bar (d : Draft) : Draft :=
  { d with frame := ⟨d.frame.number, some d.frame.regex, []⟩ }

/-- Repeats the last piece. -/
def repeatLast (d : Draft) (least : Nat) (most : Option Nat) : Draft :=
  match d.frame.row with
  | [] => d
  | (r, _) :: row =>
    let r : Regex := if most = some 0 then .nothing else .repeated r least most
    { d with frame := { d.frame with row := (r, .repeated) :: row } }

/-- Skips a repetition. -/
def skip (d : Draft) (c : Char) : Draft := { d with skipped := c :: d.skipped }

/-- What has been read, unless a group is open. -/
def finish (d : Draft) : Except Fault Reading :=
  if d.outer.isEmpty then .ok ⟨d.frame.regex, d.opened, d.skipped.reverse⟩ else .error .openGroup

end Draft

/-- Whether nothing or the end of a line is at one side. -/
def isEdge (m : Manner) (u : Option Spelled) : Bool :=
  match u with
  | none => true
  | some u => m.perLine && isUnit u '\n'

/-- The place or the set that a letter behind a backslash stands for. -/
def shorthand? (c : Char) : Option (Regex × Role) :=
  let inWord (u : Option Spelled) : Bool := u.any isWordUnit
  let isSpace : Spelled → Bool := (inClass? "space").getD fun _ => false
  match c with
  | 'w' => some (.unit isWordUnit, .plain)
  | 'W' => some (.unit fun u => u.char.isSome && !isWordUnit u, .plain)
  | 's' => some (.unit isSpace, .plain)
  | 'S' => some (.unit fun u => u.char.isSome && !isSpace u, .plain)
  | '<' => some (.place fun a b => !inWord a && inWord b, .anchor)
  | '>' => some (.place fun a b => inWord a && !inWord b, .anchor)
  | 'b' => some (.place fun a b => inWord a ≠ inWord b, .anchor)
  | 'B' => some (.place fun a b => inWord a = inWord b, .anchor)
  | '\x60' => some (.place fun a _ => a.isNone, .anchor)
  | '\'' => some (.place fun _ b => b.isNone, .anchor)
  | _ => none

/-- A sign of an expression. -/
inductive Sign where
  | unit (u : Spelled)
  | piece (r : Regex) (role : Role)
  | reference (n : Nat)
  | open
  | close
  | brace
  | bar
  | star
  | plus
  | question
  | bracket
  | caret
  | dollar

/-- The sign of a character that has a meaning in one way of writing without a backslash and in the
other one with it. -/
def sign? (c : Char) : Option Sign :=
  match c with
  | '(' => some .open
  | ')' => some .close
  | '\x7b' => some .brace
  | '|' => some .bar
  | '+' => some .plus
  | '?' => some .question
  | _ => none

/-- The sign at the start of a text, and what follows. -/
def signAt (m : Manner) (u : Spelled) (t : List Spelled) : Except Fault (Sign × List Spelled) :=
  match u.char, t with
  | some '\\', [] => .error .trailingBackslash
  | some '\\', v :: rest =>
    let c := v.char.getD '\\'
    if m.hasShorthands && '1' ≤ c && c ≤ '9' then .ok (.reference (c.toNat - 48), rest)
    else
      match if m.hasShorthands then shorthand? c else none with
      | some (r, role) => .ok (.piece r role, rest)
      | none =>
        if m.extended then .ok (.unit v, rest) else .ok ((sign? c).getD (.unit v), rest)
  | some '*', t => .ok (.star, t)
  | some '[', t => .ok (.bracket, t)
  | some '.', t => .ok (.piece (.unit fun u => u.char.isSome) .plain, t)
  | some '^', t => .ok (.caret, t)
  | some '$', t => .ok (.dollar, t)
  | some c, t => .ok (if m.extended then (sign? c).getD (.unit u) else .unit u, t)
  | none, t => .ok (.unit u, t)

/-- Whether a row ends here. -/
def endsRow (m : Manner) (t : List Spelled) : Bool :=
  match t with
  | [] => true
  | ⟨_, some '\\'⟩ :: u :: _ => !m.extended && (isUnit u ')' || isUnit u '|')
  | _ => false

/-- Adds what an expression is written with; each call takes a sign. -/
def readFrom (m : Manner) : Nat → Draft → List Spelled → Except Fault Reading
  | 0, d, _ => d.finish
  | _ + 1, d, [] => d.finish
  | fuel + 1, d, u :: t => do
    let (sign, rest) ← signAt m u t
    let literal (u : Spelled) : Draft := d.add (.unit (m.same u)) .plain
    let onto (loose : Loose) (shown : Spelled) (least : Nat) (most : Option Nat)
        (rest : List Spelled) : Except Fault Reading :=
      if d.isLoose then
        match loose with
        | .literal => readFrom m fuel (literal shown) rest
        | .skipped => readFrom m fuel (d.skip (shown.char.getD '*')) rest
        | .refused => .error .repetition
      else readFrom m fuel (d.repeatLast least most) rest
    let isDouble := m.refusesDouble && d.frame.row.head?.any fun p => p.2 = .repeated
    let shown (c : Char) : Spelled := ⟨[c], some c⟩
    match sign with
    | .unit u => readFrom m fuel (literal u) rest
    | .piece r role => readFrom m fuel (d.add r role) rest
    | .reference n =>
      if n ∈ d.closed then readFrom m fuel (d.add (.again n m.same) .plain) rest
      else .error .reference
    | .open => readFrom m fuel d.enter rest
    | .close =>
      match d.close? with
      | some d => readFrom m fuel d rest
      | none =>
        if m.keepsClosing then readFrom m fuel (literal (shown ')')) rest else .error .unopenedGroup
    | .bar => readFrom m fuel d.bar rest
    | .bracket =>
      let (f, rest) ← set m rest
      readFrom m fuel (d.add (.unit f) .plain) rest
    | .caret =>
      if m.extended || d.isLoose then
        readFrom m fuel (d.add (.place fun a _ => isEdge m a) .anchor) rest
      else readFrom m fuel (literal u) rest
    | .dollar =>
      if m.extended || endsRow m rest then
        readFrom m fuel (d.add (.place fun _ b => isEdge m b) .anchor) rest
      else readFrom m fuel (literal u) rest
    | .star =>
      if isDouble then .error .repetition else onto m.looseStar (shown '*') 0 none rest
    | .plus => onto m.looseStar (shown '+') 1 none rest
    | .question => onto m.looseStar (shown '?') 0 (some 1) rest
    | .brace =>
      if isDouble then .error .repetition
      else if d.isLoose then onto m.looseBrace (shown '\x7b') 0 none rest
      else
        match ← count m rest with
        | some (least, most, rest) => onto m.looseBrace (shown '\x7b') least most rest
        | none => readFrom m fuel (literal (shown '\x7b')) rest

/-- Reads an expression. -/
def read (m : Manner) (us : List Spelled) : Except Fault Reading :=
  readFrom m (us.length + 1) .start us

/-- The expression for a text that stands for itself. -/
def ofUnits (m : Manner) (us : List Spelled) : Regex :=
  us.foldr (fun u r => .both (.unit (m.same u)) r) .nothing

end Regex
end Shell
end IconAssets
