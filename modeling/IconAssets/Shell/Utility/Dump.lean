import IconAssets.Shell.Utility.Lines

/-!
# Dumps

A dump shows the octets of a text in rows of equal size, each behind the place where it starts and in
one line for each way in which octets are shown.  A row that is the same as the one before is
replaced by a star.
-/

namespace IconAssets
namespace Shell

namespace Dump

/-- How the octets of a cell are shown. -/
inductive Cell where
  | octal
  | signed
  | unsigned
  | hexadecimal
  /-- A character, or an escape. -/
  | character
  /-- The name of a character. -/
  | named
  deriving DecidableEq

/-- A way of showing a row: how and how many octets make a cell, and whether the text of the row
stands at its end. -/
structure Style where
  cell : Cell
  size : Nat
  showsText : Bool
  deriving DecidableEq

/-- The number that octets make, the last one being the most important. -/
def numberOf (bytes : List Nat) : Nat := bytes.foldr (fun b n => b + 256 * n) 0

/-- The digits of a number in a base, with zeros in front up to a width. -/
def digitsIn (base width n : Nat) : Text :=
  let t := Nat.toDigits base n
  List.replicate (width - t.length) '0' ++ t

/-- The names of the control characters and of the blank. -/
def names : List String :=
  ["nul", "soh", "stx", "etx", "eot", "enq", "ack", "bel", "bs", "ht", "nl", "vt", "ff", "cr", "so",
    "si", "dle", "dc1", "dc2", "dc3", "dc4", "nak", "syn", "etb", "can", "em", "sub", "esc", "fs",
    "gs", "rs", "us", "sp"]

/-- Whether an octet is a character that can be shown. -/
def isShown (b : Nat) : Bool := 32 ≤ b && b < 127

namespace Cell

/-- The width of a cell of a size. -/
def width (size : Nat) : Cell → Nat
  | .octal => (8 * size + 2) / 3
  | .signed => (toString (Nat.pow 2 (8 * size - 1))).length + 1
  | .unsigned => (toString (Nat.pow 2 (8 * size) - 1)).length
  | .hexadecimal => 2 * size
  | .character | .named => 3

/-- The text of the octets of a cell. -/
def text (bytes : List Nat) : Cell → Text
  | .octal => digitsIn 8 (Cell.octal.width bytes.length) (numberOf bytes)
  | .hexadecimal => digitsIn 16 (2 * bytes.length) (numberOf bytes)
  | .unsigned => say (toString (numberOf bytes))
  | .signed =>
    let n := numberOf bytes
    let all := Nat.pow 2 (8 * bytes.length)
    say (toString (if 2 * n < all then (n : Int) else (n : Int) - all))
  | .character =>
    let b := numberOf bytes
    if b = 0 then say "\\0"
    else
      match controlLetter? (Char.ofNat b) with
      | some c => ['\\', c]
      | none => if isShown b then [Char.ofNat b] else digitsIn 8 3 b
  | .named =>
    let b := numberOf bytes % 128
    match names[b]? with
    | some name => say name
    | none => if b = 127 then say "del" else [Char.ofNat b]

end Cell

/-- The cells of a row, from octets that fill it or less; what lacks in the last cell counts as zero.
All rows of a dump are `total` wide. -/
def row (s : Style) (perRow total : Nat) (bytes : List Nat) : Text :=
  let fields := perRow / s.size
  let blank := (perRow - bytes.length) / s.size
  let width := s.cell.width s.size
  let pad := total - width * fields
  let cells := (List.range (fields - blank)).flatMap fun k =>
    let i := fields - k
    let part := (bytes.drop (k * s.size)).take s.size
    Utility.padLeft (width + (pad * i / fields - pad * (i - 1) / fields))
      (s.cell.text (part ++ List.replicate (s.size - part.length) 0))
  if s.showsText then
    cells ++ List.replicate (blank * width + pad * blank / fields) ' ' ++ say "  >" ++
      (bytes.map fun b => if isShown b then Char.ofNat b else '.') ++ ['<']
  else cells

/-- How the places of rows are shown. -/
structure Places where
  base : Nat
  width : Nat

/-- A place as it is shown. -/
def Places.text (p : Option Places) (n : Nat) : Text :=
  match p with
  | some p => digitsIn p.base p.width n
  | none => []

/-- The pieces of a list that have a size; the last one may be smaller. -/
def piecesOf (size : Nat) : Nat → List Nat → List (List Nat)
  | 0, _ => []
  | _ + 1, [] => []
  | fuel + 1, bs => bs.take size :: piecesOf size fuel (bs.drop size)

/-- The rows of some octets, the first of which is at a place. -/
def rows (places : Option Places) (styles : List Style) (perRow : Nat) (keepsAll : Bool) (start : Nat)
    (bytes : List Nat) : List Text :=
  let total := (styles.map fun s => (s.cell.width s.size + 1) * (perRow / s.size)).foldl max 0
  let lines (i : Nat) (piece : List Nat) : Text :=
    let place := Places.text places (start + i * perRow)
    (styles.zipIdx.flatMap fun (s, k) =>
      (if k = 0 then place else List.replicate place.length ' ') ++ row s perRow total piece ++ ['\n'])
  let pieces := piecesOf perRow (bytes.length + 1) bytes
  let step (state : List Text × Option (List Nat) × Bool) (p : List Nat × Nat) :
      List Text × Option (List Nat) × Bool :=
    let (out, before, starred) := state
    let (piece, i) := p
    if !keepsAll && piece.length = perRow && before = some piece then
      (if starred then out else say "*\n" :: out, before, true)
    else (lines i piece :: out, some piece, false)
  let found := (pieces.zipIdx.foldl step ([], none, false)).1.reverse
  let last := Places.text places (start + bytes.length)
  found ++ [if last = [] then [] else last ++ ['\n']]

/-- Why a text names no styles. -/
inductive Fault where
  | unknown (c : Char)
  /-- There are no integers of a size. -/
  | size (size : Text)

/-- The text of a fault of a text. -/
def Fault.message (quote : Text → Text) (t : Text) : Fault → Text
  | .unknown c => say "invalid character '" ++ [c] ++ say "' in type string " ++ quote t
  | .size n => say "invalid type string " ++ quote t ++ say ";\nthis system doesn't provide a " ++ n ++
      say "-byte integral type"

/-- The size of an integer at the start of a text, and what stands behind it. -/
def sizeAt (t : Text) : Except Fault (Nat × Text) :=
  let digits := t.takeWhile Char.isDigit
  match t with
  | 'C' :: rest => .ok (1, rest)
  | 'S' :: rest => .ok (2, rest)
  | 'I' :: rest => .ok (4, rest)
  | 'L' :: rest => .ok (8, rest)
  | _ =>
    if digits = [] then .ok (4, t)
    else
      match (digits? digits).filter (· ∈ [1, 2, 4, 8]) with
      | some n => .ok (n, t.drop digits.length)
      | none => .error (.size digits)

/-- The styles that a text names; each call takes one. -/
def stylesOf : Nat → Text → Except Fault (List Style)
  | 0, _ => .ok []
  | _ + 1, [] => .ok []
  | fuel + 1, c :: t => do
    let numeric : List (Char × Cell) :=
      [('d', .signed), ('o', .octal), ('u', .unsigned), ('x', .hexadecimal)]
    let (cell, size, rest) ← match numeric.lookup c with
      | some cell => do
        let (size, rest) ← sizeAt t
        pure (cell, size, rest)
      | none =>
        if c = 'a' then pure (.named, 1, t)
        else if c = 'c' then pure (.character, 1, t)
        else throw (.unknown c)
    let showsText := rest.head? = some 'z'
    let more ← stylesOf fuel (if showsText then rest.drop 1 else rest)
    return ⟨cell, size, showsText⟩ :: more

/-- What the options with one letter stand for. -/
def short : List (String × String) :=
  [("a", "a"), ("b", "o1"), ("c", "c"), ("d", "u2"), ("h", "x2"), ("i", "dI"), ("l", "dL"),
    ("o", "o2"), ("s", "d2"), ("x", "x2"), ("B", "o2"), ("D", "u4"), ("H", "x4"), ("I", "dL"),
    ("L", "dL"), ("O", "o4"), ("X", "x4")]

/-- The number of octets that a text spells, in base eight behind a zero and in base sixteen behind
a zero and an x. -/
def amount? (t : Text) : Option Nat :=
  let (base, u) : Nat × Text := match t with
    | '0' :: 'x' :: u | '0' :: 'X' :: u => (16, u)
    | '0' :: _ => (8, t)
    | _ => (10, t)
  let (n, rest) := digitsAt base 0 u
  if u.length = rest.length then none else (Utility.sizeUnit? rest).map (n * ·)

end Dump

namespace Utility

/-- The contents of several files one behind the other, if any of them can be opened, and complaints
about the others. -/
def joined (c : Call) (files : List Text) : Option Text × Effect :=
  (if files = [] then [['-']] else files).foldl (fun (found, e) t =>
    match contentOf c t with
    | .ok data => (some (found.getD [] ++ data), if isInput t then e.usingInput else e)
    | .error fault =>
      (if fault = .isFolder then some (found.getD []) else found, e.andThen fun _ => unreadable c t fault))
    (none, c.finish 0)

/-- Shows the octets of files. -/
def od (c : Call) : Effect :=
  c.withOptions "A:aBbcDdHhIij:LlN:OosS:t:vw::Xx" ["skip-bytes=,j", "address-radix=,A", "read-bytes=,N",
    "format=,t", "output-duplicates,v", "width?=,w"] 1 fun options files =>
    let amount (k : String) : Except Effect (Option Nat) :=
      (settingOf? options k).mapM fun t =>
        match Dump.amount? t with
        | some n => .ok n
        | none => .error (c.refuse 1 (say ("invalid -" ++ k ++ " argument ") ++ '\'' :: t ++ ['\'']))
    let radix : Except Effect (Option Dump.Places) :=
      match settingOf? options "A" with
      | none | some ['o'] => .ok (some ⟨8, 7⟩)
      | some ['d'] => .ok (some ⟨10, 7⟩)
      | some ['x'] => .ok (some ⟨16, 6⟩)
      | some ['n'] => .ok none
      | some t => .error (c.refuse 1 (say "invalid output address radix '" ++ t.take 1 ++
          say "'; it must be one character from [doxn]"))
    let styles : Except Effect (List Dump.Style) :=
      (options.foldl (fun all o => do
        let all ← all
        let t := if o.1 = "t" then o.2 else ((Dump.short.lookup o.1).map String.toList).getD []
        match Dump.stylesOf (t.length + 1) t with
        | .ok more => return all ++ more
        | .error f => throw (c.refuse 1 (f.message c.quote t))) (.ok []))
    let run : Except Effect Effect := do
      let places ← radix
      let skipped := (← amount "j").getD 0
      let most ← amount "N"
      let styles ← styles
      let styles := if styles = [] then [⟨.octal, 2, false⟩] else styles
      let common := (styles.map (·.size)).foldl max 1
      let wanted ← match settingOf? options "w" with
        | none => pure 16
        | some [] => pure 32
        | some _ => do pure ((← amount "w").getD 16)
      let isFitting := wanted % common = 0 && 0 < wanted
      let perRow := if isFitting then wanted else common
      let (data?, e) := joined c files
      let warned : Effect :=
        if isFitting then c.finish 0
        else { c.refuse 0 (say ("warning: invalid width " ++ toString wanted ++ "; using " ++
          toString common ++ " instead")) with status := 0 }
      let e := warned.andThen fun _ => e
      match data? with
      | none => return e
      | some data =>
        if data.length < skipped then
          return e.andThen fun _ => c.refuse 1 (say "cannot skip past end of combined input")
        let data := data.drop skipped
        let bytes := (match most with | some n => data.take n | none => data).map Char.toNat
        return e.andThen fun _ => c.ok
          (Dump.rows places styles perRow (isSet options "v") skipped bytes).flatten
    match run with
    | .ok e | .error e => e

end Utility

end Shell
end IconAssets
