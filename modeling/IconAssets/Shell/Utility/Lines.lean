import IconAssets.Shell.Format
import IconAssets.Shell.Utility.Options

/-!
# Utilities that show lines

Each reads the contents of files, or its input if there are no files, and writes parts of them:
all lines, the first or last ones, lines turned around or with their numbers.
-/

namespace IconAssets
namespace Shell

namespace Utility

open Pattern (pathOf)

/-- The pieces of a text that end with a separator; the last one may lack it. -/
def endedPieces (sep : Char) (t : Text) : List Text :=
  let ps := Text.pieces sep t
  (ps.dropLast.map fun p => p ++ [sep]) ++
    match ps.getLast? with
    | none | some [] => []
    | some p => [p]

/-- The lines of a text, each with its end if it has one. -/
def wholeLines (t : Text) : List Text := endedPieces '\n' t

/-- The lines of a text, without their ends. -/
def linesOf (t : Text) : List Text :=
  let ps := Text.pieces '\n' t
  if ps.getLast? = some [] then ps.dropLast else ps

/-- Lines with their ends. -/
def asLines (ls : List Text) : Text := ls.flatMap fun l => l ++ ['\n']

/-- A number of equal characters. -/
def fill (c : Char) (n : Nat) : Text := List.replicate n c

/-- A text with blanks in front, up to a width. -/
def padLeft (width : Nat) (t : Text) : Text := fill ' ' (width - t.length) ++ t

/-- A text with blanks behind, up to a width. -/
def padRight (width : Nat) (t : Text) : Text := t ++ fill ' ' (width - t.length)

/-- What a suffix of a size multiplies it with. -/
def sizeUnit? (suffix : Text) : Option Nat :=
  match suffix with
  | [] => some 1
  | ['b'] => some 512
  | c :: rest =>
    let powers := ['k', 'M', 'G', 'T', 'P', 'E', 'Z', 'Y', 'R', 'Q']
    match powers.findIdx? (· = if c = 'K' then 'k' else c) with
    | none => none
    | some i =>
      if rest = [] || rest = ['i', 'B'] then some (Nat.pow 1024 (i + 1))
      else if rest = ['B'] then some (Nat.pow 1000 (i + 1))
      else none

/-- Reads a size; what it is the size of stands in complaints. -/
def readSize (c : Call) (what : String) (t : Text) : Except Text Nat :=
  let digits := t.takeWhile Char.isDigit
  let invalid : Text := say ("invalid " ++ what ++ ": ") ++ c.quote t
  match digits? digits, sizeUnit? (t.drop digits.length) with
  | some n, some unit =>
    if n * unit < Nat.pow 2 64 then .ok (n * unit)
    else .error (invalid ++ say ": Value too large for defined data type")
  | _, _ => .error invalid

/-- How the contents of files are shown. -/
structure Display where
  numbersAll : Bool
  numbersFull : Bool
  squeezes : Bool
  marksEnds : Bool
  marksTabs : Bool
  escapes : Bool

namespace Display

/-- A character as it is shown. -/
def char (m : Display) (c : Char) : Text :=
  let low (n : Nat) : Text :=
    if n < 32 then ['^', Char.ofNat (n + 64)]
    else if n = 127 then ['^', '?']
    else [Char.ofNat n]
  if c = '\t' then (if m.marksTabs then ['^', 'I'] else [c])
  else if !m.escapes || c = '\n' then [c]
  else if c.toNat < 128 then low c.toNat
  else 'M' :: '-' :: low (c.toNat - 128)

/-- A line as it is shown, without its number. -/
def line (m : Display) (l : Text) : Text :=
  let ended := l.getLast? = some '\n'
  let body := if ended then l.dropLast else l
  let body := if ended && m.marksEnds && !m.escapes && body.getLast? = some '\r' then
      (body.dropLast.flatMap m.char) ++ ['^', 'M']
    else body.flatMap m.char
  body ++ (if ended && m.marksEnds then ['$'] else []) ++ if ended then ['\n'] else []

/-- Shows a text.  The state is the number of the last line, the number of empty lines at the end,
and whether the last line goes on. -/
def text (m : Display) (state : Nat × Nat × Bool) (t : Text) : Text × (Nat × Nat × Bool) :=
  let (pieces, state) := (wholeLines t).foldl (fun (out, number, empty, goesOn) l =>
    let isEmpty := l = ['\n'] && !goesOn
    if isEmpty && m.squeezes && 1 ≤ empty then (out, number, empty, false)
    else
      let numbered := !goesOn && (if m.numbersFull then !isEmpty else m.numbersAll)
      let number := if numbered then number + 1 else number
      (((if numbered then padLeft 6 (Text.ofNat number) ++ ['\t'] else []) ++ m.line l) :: out,
        number, if isEmpty then empty + 1 else 0, l.getLast? ≠ some '\n')) (([] : List Text), state)
  (pieces.reverse.flatten, state)

end Display

/-- Writes the contents of files one after the other. -/
def cat (c : Call) : Effect :=
  c.withOptions "AbeEnstTuv" ["show-all,A", "number-nonblank,b", "show-ends,E", "number,n",
    "squeeze-blank,s", "show-tabs,T", "show-nonprinting,v"] 1 fun options files =>
    let on (k : String) : Bool := isSet options k
    let m : Display := ⟨on "n", on "b", on "s", on "E" || on "e" || on "A",
      on "T" || on "t" || on "A", on "v" || on "e" || on "t" || on "A"⟩
    let step (r : Effect × (Nat × Nat × Bool)) (t : Text) : Effect × (Nat × Nat × Bool) :=
      let c := { c with disk := r.1.disk, input := r.1.rest.getD c.input }
      match contentOf c t with
      | .error fault => (r.1.andThen fun _ => unreadable c t fault, r.2)
      | .ok data =>
        let (out, state) := m.text r.2 data
        let e := c.ok out
        (r.1.andThen fun _ => if isInput t then e.usingInput else e, state)
    ((if files = [] then [['-']] else files).foldl step (c.finish 0, (0, 0, false))).1

/-- The name under which a file is announced. -/
def announced (file : Text) : Text := if isInput file then say "standard input" else file

/-- Writes the contents of files, each behind its name if there are several or names are asked
for. -/
def announcing (c : Call) (options : List Setting) (files : List Text)
    (f : Call → Text → Text → Effect) (failed : Text → Disk.Fault → Effect) : Effect :=
  let names := match lastOf options ["q", "v"] with
    | some "v" => true
    | some _ => false
    | none => 1 < files.length
  let files := if files = [] then [['-']] else files
  let header (first : Bool) (t : Text) : Text :=
    if names then (if first then [] else ['\n']) ++ say "==> " ++ announced t ++ say " <==\n" else []
  let step (r : Effect × Bool) (t : Text) : Effect × Bool :=
    let c := { c with disk := r.1.disk, input := r.1.rest.getD c.input }
    match contentOf c t with
    | .ok data =>
      let e := (c.ok (header r.2 t)).andThen fun _ => f c t data
      (r.1.andThen fun _ => if isInput t && e.rest.isNone then e.usingInput else e, false)
    | .error .isFolder =>
      (r.1.andThen fun _ => (c.ok (header r.2 t)).andThen fun _ =>
        c.refuse 1 (say "error reading " ++ c.named t ++ say ": " ++ faultWords .isFolder), false)
    | .error fault => (r.1.andThen fun _ => failed t fault, r.2)
  (files.foldl step (c.finish 0, true)).1.complaintsFirst

/-- Splits an old way to write a number into its digits and its letters. -/
def oldCount? (t : Text) : Option (Text × Text) :=
  let digits := t.takeWhile Char.isDigit
  if digits = [] then none else some (digits, t.drop digits.length)

/-- Writes the first lines or bytes of files. -/
def head (c : Call) : Effect :=
  let args : Except Char (List Text) := match c.arguments with
    | ('-' :: t) :: rest =>
      match oldCount? t with
      | none => .ok c.arguments
      | some (digits, letters) =>
        match letters.find? fun x => x ∉ ['c', 'b', 'k', 'm', 'l', 'q', 'v', 'z'] with
        | some x => .error x
        | none =>
          let units := letters.filter fun x => x ∈ ['b', 'k', 'm']
          let unit := (units.getLast?.map fun x => if x = 'm' then 'M' else x).toList
          let counted := if units = [] && 'c' ∉ letters then ['-', 'n'] else ['-', 'c']
          let others := (letters.filter fun x => x ∈ ['q', 'v', 'z']).map fun x => ['-', x]
          .ok ((counted ++ digits ++ unit) :: others ++ rest)
    | args => .ok args
  match args with
  | .error x => c.misuse 1 (say "invalid trailing option -- " ++ [x])
  | .ok args =>
    (c.withArguments args).withOptions "c:n:qvz" ["bytes=,c", "lines=,n", "quiet,q",
      "silent,q", "verbose,v", "zero-terminated,z"] 1 fun options files =>
      let sep := if isSet options "z" then '\x00' else '\n'
      let bad := (options.filter fun o => o.1 = "c" || o.1 = "n").filterMap fun o =>
        let t := if o.2.head? = some '-' then o.2.drop 1 else o.2
        match readSize c (if o.1 = "c" then "number of bytes" else "number of lines") t with
        | .ok _ => none
        | .error message => some message
      match bad with
      | message :: _ => c.refuse 1 message
      | [] =>
        let counted := (options.reverse.find? fun o => o.1 = "c" || o.1 = "n").getD ("n", ['1', '0'])
        let fromEnd := counted.2.head? = some '-'
        let n := ((readSize c "" (if fromEnd then counted.2.drop 1 else counted.2)).toOption).getD 0
        let kept {α : Type} (xs : List α) : List α :=
          xs.take (if fromEnd then xs.length - n else n)
        announcing c options files
          (fun c t data =>
            let pieces := kept (endedPieces sep data)
            let out := if counted.1 = "c" then kept data else pieces.flatten
            let isFull := !fromEnd &&
              if counted.1 = "c" then out.length = n
              else pieces.length = n && out.getLast?.all (· = sep)
            if isInput t && isFull then { c.ok out with rest := data.drop out.length, sated := true }
            else c.ok out)
          fun t fault => c.refuse 1 (say "cannot open " ++ c.named t ++ say " for reading: " ++
            faultWords fault)

/-- The arguments of `tail` with an old way to write a number made new. -/
def tailArguments (args : List Text) : List Text :=
  let single := match args with
    | [_] => true
    | [_, f] => f.head? ≠ some '-' || f.length = 1
    | _ :: dashes :: _ => dashes = ['-', '-'] && args.length ≤ 3
    | [] => false
  match args with
  | (sign :: t) :: rest =>
    let digits := t.takeWhile Char.isDigit
    let letters := t.drop digits.length
    let unit := (letters.take 1).filter fun x => x ∈ ['b', 'c', 'l']
    let behind := letters.drop unit.length
    let isOld := single && (sign = '+' || (sign = '-' && (digits ≠ [] || t = ['f']))) &&
      (behind = [] || behind = ['f'])
    let count := if digits = [] then ['1', '0'] else digits
    let option : Text :=
      (if unit = ['l'] || unit = [] then ['-', 'n'] else ['-', 'c']) ++
        (if sign = '+' then ['+'] else []) ++ count ++ (if unit = ['b'] then ['b'] else [])
    if isOld then option :: rest else args
  | _ => args

/-- Writes the last lines or bytes of files, or those from a certain one on. -/
def tail (c : Call) : Effect :=
  let args := tailArguments c.arguments
  match args.head? with
  | some ('-' :: d :: _) =>
    if d.isDigit then c.refuse 1 (say "option used in invalid context -- " ++ [d])
    else go { c with arguments := args }
  | _ => go { c with arguments := args }
where
  /-- Goes on with arguments in the new way. -/
  go (c : Call) : Effect :=
    c.withOptions "c:n:fFqs:vz" ["bytes=,c", "lines=,n", "follow?=,f", "quiet,q", "silent,q",
      "verbose,v", "zero-terminated,z", "pid=", "retry", "sleep-interval=,s"] 1 fun options files =>
      let sep := if isSet options "z" then '\x00' else '\n'
      let plain (t : Text) : Text :=
        if t.head? = some '-' || t.head? = some '+' then t.drop 1 else t
      let bad := (options.filter fun o => o.1 = "c" || o.1 = "n").filterMap fun o =>
        match readSize c (if o.1 = "c" then "number of bytes" else "number of lines")
          (plain o.2) with
        | .ok _ => none
        | .error message => some message
      match bad with
      | message :: _ => c.refuse 1 message
      | [] =>
        let counted := (options.reverse.find? fun o => o.1 = "c" || o.1 = "n").getD ("n", ['1', '0'])
        let n := ((readSize c "" (plain counted.2)).toOption).getD 0
        let kept {α : Type} (xs : List α) : List α :=
          if counted.2.head? = some '+' then xs.drop (n - 1) else xs.drop (xs.length - n)
        announcing c options files
          (fun c _ data => c.ok
            (if counted.1 = "c" then kept data else (kept (endedPieces sep data)).flatten))
          fun t fault => c.refuse 1 (say "cannot open " ++ c.named t ++ say " for reading: " ++
            faultWords fault)

/-- The pieces of a text that end at occurrences of a separator, or that start there. -/
def separated (sep : Text) (before : Bool) : Nat → Text → Text → List Text
  | 0, current, t => [current.reverse ++ t]
  | _ + 1, current, [] => if current = [] then [] else [current.reverse]
  | fuel + 1, current, c :: t =>
    if sep.isPrefixOf (c :: t) then
      let rest := (c :: t).drop sep.length
      if before then
        (if current = [] then [] else [current.reverse]) ++ separated sep before fuel sep.reverse rest
      else (current.reverse ++ sep) :: separated sep before fuel [] rest
    else separated sep before fuel (c :: current) t

/-- Writes the lines of files from the last one to the first one. -/
def tac (c : Call) : Effect :=
  c.withOptions "brs:" ["before,b", "regex,r", "separator=,s"] 1 fun options files =>
    let sep := match settingOf? options "s" with
      | some [] => ['\x00']
      | some t => t
      | none => ['\n']
    (forContents c files
      (fun t fault =>
        if fault = .isFolder then c.refuse 1 (c.shown t ++ say ": read error: Invalid argument")
        else c.refuse 1 (say "failed to open " ++ c.named t ++ say " for reading: " ++
          faultWords fault))
      fun c _ data =>
        c.ok (separated sep (isSet options "b") (data.length + 1) [] data).reverse.flatten
        ).complaintsFirst

/-- Writes each line with its characters turned around. -/
def rev (c : Call) : Effect :=
  c.withOptions "0" ["zero,0", "help,h", "version,V"] 1 fun options files =>
    let sep := if isSet options "0" then '\x00' else '\n'
    forContents c files
      (fun t fault =>
        if fault = .isFolder then c.finish 0
        else c.refuse 1 (say "cannot open " ++ t ++ say ": " ++ faultWords fault))
      fun c _ data => c.ok ((endedPieces sep data).flatMap fun l =>
        let ended := l.getLast? = some sep
        let body := if ended then l.dropLast else l
        ((spelled c.speaksUtf8 body).reverse.flatMap (·.octets)) ++ if ended then [sep] else [])

/-- Which lines of a section get numbers. -/
inductive Numbered where
  | all
  | full
  | none
  deriving DecidableEq

namespace Numbered

/-- Whether a line gets a number. -/
def holds (n : Numbered) (l : Text) : Bool :=
  match n with
  | .all => true
  | .full => l ≠ []
  | .none => false

end Numbered

/-- How lines are numbered. -/
structure Numbering where
  header : Numbered
  body : Numbered
  footer : Numbered
  /-- Of so many empty lines in a row only the last one gets a number. -/
  join : Nat
  first : Int
  step : Int
  width : Nat
  /-- Whether numbers stand to the left, to the right, or behind zeros. -/
  format : Text
  separator : Text
  delimiter : Text
  /-- Whether the numbers go on in the next page. -/
  goesOn : Bool

namespace Numbering

/-- A number as it is written. -/
def number (m : Numbering) (i : Int) : Text :=
  let digits := Text.ofNat i.natAbs
  let sign := if i < 0 then ['-'] else []
  if m.format = ['l', 'n'] then padRight m.width (sign ++ digits)
  else if m.format = ['r', 'z'] then sign ++ fill '0' (m.width - sign.length - digits.length) ++ digits
  else padLeft m.width (sign ++ digits)

/-- The lines with their numbers.  The state is the section, the next number, and the number of
empty lines in a row. -/
def lines (m : Numbering) : Numbered × Int × Nat → List Text → List Text
  | _, [] => []
  | (section_, next, empty), l :: ls =>
    let mark := m.delimiter
    if mark ≠ [] && (l = mark ++ mark ++ mark || l = mark ++ mark || l = mark) then
      let now := if l = mark then m.footer else if l = mark ++ mark then m.body else m.header
      [] :: lines m (now, if m.goesOn then next else m.first, 0) ls
    else
      let empty := if l = [] then empty + 1 else 0
      let joined := section_ = .all && l = [] && 1 < m.join && empty < m.join
      if section_.holds l && !joined then
        (m.number next ++ m.separator ++ l) :: lines m (section_, next + m.step, 0) ls
      else (fill ' ' (m.width + m.separator.length) ++ l) :: lines m (section_, next, empty) ls

end Numbering

/-- Writes lines with their numbers. -/
def nl (c : Call) : Effect :=
  c.withOptions "h:b:f:v:i:pl:s:w:n:d:" ["header-numbering=,h", "body-numbering=,b",
    "footer-numbering=,f", "starting-line-number=,v", "line-increment=,i", "no-renumber,p",
    "join-blank-lines=,l", "number-separator=,s", "number-width=,w", "number-format=,n",
    "section-delimiter=,d"] 1 fun options files =>
    let style? (t : Text) : Option Numbered :=
      [(['a'], Numbered.all), (['t'], .full), (['n'], .none)].lookup t
    let style (k : String) (default : Numbered) : Numbered :=
      ((settingOf? options k).bind style?).getD default
    let number (k : String) (default : Int) : Int :=
      ((settingOf? options k).bind decimal?).getD default
    let invalid (what : String) (t : Text) : Text := say ("invalid " ++ what ++ ": ") ++ c.quote t
    let styled (what : String) (t : Text) : Option (Bool × Text) :=
      if (style? t).isSome then none else some (true, invalid (what ++ " numbering style") t)
    let counted (what : String) (least : Int) (t : Text) : Option (Bool × Text) :=
      match decimal? t with
      | none => some (false, invalid what t)
      | some i =>
        if least ≤ i then none
        else some (false, invalid what t ++ say ": Numerical result out of range")
    let faults := options.filterMap fun (k, t) =>
      match k with
      | "h" => styled "header" t
      | "b" => styled "body" t
      | "f" => styled "footer" t
      | "v" => counted "starting line number" (-maxInteger - 1) t
      | "i" => counted "line number increment" (-maxInteger - 1) t
      | "l" => counted "line number of blank lines" 1 t
      | "w" => counted "line number field width" 1 t
      | "n" =>
        if t ∈ [['l', 'n'], ['r', 'n'], ['r', 'z']] then none
        else some (false, invalid "line numbering format" t)
      | _ => none
    match faults with
    | (true, message) :: _ => c.misuse 1 message
    | (false, message) :: _ => c.refuse 1 message
    | [] =>
      let mark := match settingOf? options "d" with
        | some [a] => [a, ':']
        | some t => t
        | none => ['\\', ':']
      let m : Numbering := ⟨style "h" .none, style "b" .full, style "f" .none,
        (number "l" 1).toNat, number "v" 1, number "i" 1, (number "w" 6).toNat,
        (settingOf? options "n").getD ['r', 'n'], (settingOf? options "s").getD ['\t'], mark,
        isSet options "p"⟩
      let e := forContents c files (unreadable c) fun c _ data => c.ok (asLines (linesOf data))
      e.withOut (asLines (m.lines (m.body, m.first, 0) (linesOf e.out)))

/-- Writes the input to files as well. -/
def tee (c : Call) : Effect :=
  c.withOptions "aip" ["append,a", "ignore-interrupts,i", "output-error?=,p"] 1 fun options files =>
    let e := forEach c files fun c t =>
      if t = "/dev/stdout".toList || t = ['-'] then
        if t = ['-'] then write c (isSet options "a") t else c.ok c.input
      else if t = "/dev/stderr".toList then ⟨c.disk, [(true, c.input)], 0, none, false⟩
      else write c (isSet options "a") t
    let all : Effect :=
      { e with written := (e.written.filter (·.1)) ++ [(false, c.input ++ e.out)] }
    all.usingInput
where
  /-- Writes the input to a file. -/
  write (c : Call) (appends : Bool) (t : Text) : Effect :=
    let before := match c.disk.readFile (pathOf t) with
      | .ok data => if appends then data else []
      | .error _ => []
    match c.disk.writeFile (pathOf t) (before ++ toBytes c.input) with
    | .ok d => Call.changed d
    | .error f => c.refuse 1 (c.shown t ++ say ": " ++ faultWords f)

end Utility

end Shell
end IconAssets
