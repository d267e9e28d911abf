import IconAssets.Shell.Utility.Order

/-!
# Columns

Utilities that take lines apart into fields or characters, put lines of several files side by side,
and break lines or change their gaps.
-/

namespace IconAssets
namespace Shell

namespace Utility

open Pattern (pathOf)

/-- The lines of a text that end with a separator, without it. -/
def piecesOf (sep : Char) (t : Text) : List Text :=
  let ps := Text.pieces sep t
  if ps.getLast? = some [] then ps.dropLast else ps

/-- A row of numbers from one to another, or to the end. -/
abbrev Range := Nat × Option Nat

namespace Range

/-- Whether a range holds a number. -/
def holds (r : Range) (n : Nat) : Bool := r.1 ≤ n && r.2.all (n ≤ ·)

/-- Reads one range of a list. -/
def readOne (c : Call) (fields : Bool) (t : Text) : Except Text Range :=
  let fail (byField byCharacter : String) : Except Text Range :=
    .error (say (if fields then byField else byCharacter))
  let unnumbered : Except Text Range :=
    fail "fields are numbered from 1" "byte/character positions are numbered from 1"
  let tooLarge (d : Text) : Except Text Range :=
    .error (say (if fields then "field number " else "byte/character offset ") ++ c.quote d ++
      say " is too large")
  let limit := Nat.pow 2 64 - 1
  let isLarge (d : Text) : Bool := ((digits? d).getD 0) ≥ limit
  match t.dropWhile fun x => x.isDigit || x = '-' with
  | _ :: _ =>
    .error (say (if fields then "invalid field value " else "invalid byte/character position ") ++
      c.quote (t.dropWhile fun x => x.isDigit || x = '-'))
  | [] =>
    match Text.pieces '-' t with
    | [a] =>
      if isLarge a then tooLarge a
      else
        match digits? a with
        | none | some 0 => unnumbered
        | some n => .ok (n, some n)
    | [a, b] =>
      if isLarge a then tooLarge a
      else if isLarge b then tooLarge b
      else if digits? a = some 0 then unnumbered
      else if a = [] && b = [] then .error (say "invalid range with no endpoint: -")
      else
        let low := (digits? a).getD 1
        match digits? b with
        | none => .ok (low, none)
        | some high =>
          if high < low then .error (say "invalid decreasing range") else .ok (low, some high)
    | _ => fail "invalid field range" "invalid byte or character range"

/-- Reads a list of ranges. -/
def read (c : Call) (fields : Bool) (t : Text) : Except Text (List Range) :=
  ((Text.pieces ',' (t.map fun x => if x = ' ' || x = '\t' then ',' else x))).mapM (readOne c fields)

/-- Ranges in order, those that overlap taken together. -/
def merged (rs : List Range) : List Range :=
  (rs.mergeSort fun a b => a.1 ≤ b.1).foldl (fun out r =>
    match out.reverse with
    | last :: before =>
      if last.2.all (r.1 ≤ ·) then
        before.reverse ++ [(last.1, match last.2, r.2 with
          | some a, some b => some (max a b)
          | _, _ => none)]
      else out ++ [r]
    | [] => [r]) []

/-- The numbers that ranges do not hold, as ranges in order. -/
def complement (rs : List Range) : List Range := go 1 (merged rs)
where
  /-- The gaps from a number on. -/
  go : Nat → List Range → List Range
    | n, [] => [(n, none)]
    | n, (a, b) :: rs =>
      (if n < a then [(n, some (a - 1))] else []) ++
        match b with
        | none => []
        | some b => go (b + 1) rs

end Range

/-- Writes certain fields or bytes of each line. -/
def cut (c : Call) : Effect :=
  c.withOptions "b:c:d:f:nsz" ["bytes=,b", "characters=,c", "fields=,f", "delimiter=,d",
    "only-delimited,s", "output-delimiter=", "complement", "zero-terminated,z"] 1
    fun options files =>
    let lists := options.filter fun o => o.1 = "b" || o.1 = "c" || o.1 = "f"
    let delimiter := settingOf? options "d"
    if (options.filter fun o => o.1 = "d").any fun o => 1 < o.2.length then
      c.misuse 1 (say "the delimiter must be a single character")
    else
      match lists with
      | [] => c.misuse 1 (say "you must specify a list of bytes, characters, or fields")
      | _ :: _ :: _ => c.misuse 1 (say "only one list may be specified")
      | [(kind, list)] =>
        let fields := kind = "f"
        if !fields && delimiter.isSome then
          c.misuse 1 (say "an input delimiter may be specified only when operating on fields")
        else if !fields && isSet options "s" then
          c.misuse 1 (say ("suppressing non-delimited lines makes sense\n" ++
            "\tonly when operating on fields"))
        else
          match Range.read c fields list with
          | .error message => c.misuse 1 message
          | .ok rs =>
            let rs := if isSet options "complement" then Range.complement rs else Range.merged rs
            let sep := if isSet options "z" then '\x00' else '\n'
            let mark := match delimiter with
              | none => '\t'
              | some [] => '\x00'
              | some (d :: _) => d
            let joint := (settingOf? options "output-delimiter").map fun t =>
              if t = [] then ['\x00'] else t
            let kept {α : Type} (xs : List α) : List α :=
              (xs.zipIdx 1).filterMap fun x => if rs.any fun r => r.holds x.2 then some x.1 else none
            let line (l : Text) : Option Text :=
              if fields then
                if mark ∈ l then
                  let fs := kept (Text.pieces mark l)
                  some ((fs.foldl (fun (out, first) f =>
                    (out ++ (if first then [] else joint.getD [mark]) ++ f, false)) ([], true)).1)
                else if isSet options "s" then none
                else some l
              else
                match joint with
                | none => some (kept l)
                | some j =>
                  let parts := (rs.map fun r => ((l.zipIdx 1).filter fun x => r.holds x.2).map (·.1)).filter
                    (· ≠ [])
                  some ((parts.foldl (fun (out, first) f =>
                    (out ++ (if first then [] else j) ++ f, false)) ([], true)).1)
            (forContents c files (unreadable c) fun c _ data =>
              c.ok ((piecesOf sep data).flatMap fun l =>
                match line l with
                | some t => t ++ [sep]
                | none => [])).complaintsFirst

/-- The separators that a list of them names; one may be empty. -/
def delimitersOf : Text → Option (List Text)
  | [] => some []
  | ['\\'] => none
  | '\\' :: x :: t =>
    let d := if x = '0' then [] else [(control? x).getD x]
    (delimitersOf t).map (d :: ·)
  | x :: t => (delimitersOf t).map ([x] :: ·)

/-- Writes lines of several files side by side. -/
def paste (c : Call) : Effect :=
  c.withOptions "d:sz" ["delimiters=,d", "serial,s", "zero-terminated,z"] 1 fun options files =>
    let files := if files = [] then [['-']] else files
    let sep := if isSet options "z" then '\x00' else '\n'
    let list := (settingOf? options "d").getD ['\t']
    match delimitersOf list with
    | none => c.refuse 1 (say "delimiter list ends with an unescaped backslash: " ++ list)
    | some ds =>
      let ds := if ds = [] then [[]] else ds
      let glue (fields : List Text) : Text :=
        ((fields.zipIdx 0).flatMap fun (f, i) =>
          if i = 0 then f else (ds[(i - 1) % ds.length]?).getD [] ++ f) ++ [sep]
      if isSet options "s" then
        (forContents c files (unreadable c) fun c _ data =>
          c.ok (glue (piecesOf sep data))).complaintsFirst
      else
        let readers := (files.filter isInput).length
        let input := piecesOf sep c.input
        let share (k : Nat) : List Text := (input.zipIdx 0).filterMap fun (l, i) =>
          if i % readers = k then some l else none
        let contents := (files.zipIdx 0).map fun (t, i) =>
          if isInput t then .ok (share ((files.take i).filter isInput).length)
          else (contentOf c t).map (piecesOf sep)
        match (files.zip contents).findSome? fun (t, r) =>
          match r with
          | .error fault => some (unreadable c t fault)
          | .ok _ => none with
        | some e => e
        | none =>
          let columns := contents.filterMap Except.toOption
          let height := columns.foldl (fun n ls => max n ls.length) 0
          let rows := (List.range height).map fun i => columns.map fun ls => ls.getD i []
          let e := c.ok (rows.flatMap glue)
          if readers = 0 then e else e.usingInput

/-- Breaks lines that are too long. -/
def fold (c : Call) : Effect :=
  let args := c.arguments.map fun a =>
    match a with
    | '-' :: d :: rest => if d.isDigit then '-' :: 'w' :: d :: rest else a
    | a => a
  (c.withArguments args).withOptions "bsw:" ["bytes,b", "spaces,s", "width=,w"] 1
    fun options files =>
    let width := (settingOf? options "w").getD ['8', '0']
    match digits? width with
    | none => c.refuse 1 (say "invalid number of columns: " ++ c.quote width)
    | some 0 =>
      c.refuse 1 (say "invalid number of columns: " ++ c.quote width ++
        say ": Numerical result out of range")
    | some width =>
      let advance (column : Nat) (x : Char) : Nat :=
        if isSet options "b" then column + 1
        else if x = '\x08' then column - 1
        else if x = '\r' then 0
        else if x = '\t' then column + 8 - column % 8
        else column + 1
      let columnOf (t : Text) : Nat := t.foldl advance 0
      let rec broken : Nat → Text → Nat → Text → Text
        | 0, current, _, rest => current.reverse ++ rest
        | _ + 1, current, _, [] => current.reverse
        | fuel + 1, current, column, x :: rest =>
          let next := advance column x
          if next ≤ width || current = [] then broken fuel (x :: current) next rest
          else
            let tail := current.takeWhile fun y => y ≠ ' ' && y ≠ '\t'
            if isSet options "s" && tail.length < current.length then
              let tail := tail.reverse
              ((current.drop tail.length).reverse ++ ['\n']) ++
                broken fuel tail.reverse (columnOf tail) (x :: rest)
            else (current.reverse ++ ['\n']) ++ broken fuel [] 0 (x :: rest)
      (forContents c files (unreadable c) fun c _ data =>
        c.ok ((wholeLines data).flatMap fun l =>
          let ended := l.getLast? = some '\n'
          let body := if ended then l.dropLast else l
          broken (2 * body.length + 2) [] 0 body ++ if ended then ['\n'] else [])).complaintsFirst

/-- Where tabs lead: to certain columns, and behind them to multiples of a number. -/
structure TabStops where
  columns : List Nat
  /-- The distance of further stops, and where they are counted from. -/
  step : Option (Nat × Nat)

namespace TabStops

/-- The next stop behind a column, if there is one. -/
def next? (s : TabStops) (column : Nat) : Option Nat :=
  match s.columns.find? (column < ·) with
  | some n => some n
  | none => s.step.map fun (k, base) => column + k - (column - base) % k

/-- Reads a list of tab stops. -/
def read (c : Call) (t : Text) : Except Text TabStops :=
  let words := (Text.pieces ',' (t.map fun x => if x = ' ' then ',' else x)).filter (· ≠ [])
  let step := words.findSome? fun w =>
    match w with
    | '/' :: n => (digits? n).map fun n => (n, false)
    | '+' :: n => (digits? n).map fun n => (n, true)
    | _ => none
  let plain := words.filter fun w => w.head? ≠ some '/' && w.head? ≠ some '+'
  match plain.find? fun w => (digits? w).isNone with
  | some w =>
    .error (say "tab size contains invalid character(s): " ++
      c.quote (w.dropWhile Char.isDigit))
  | none =>
    let ns := plain.filterMap digits?
    if ns.any (· = 0) then .error (say "tab size cannot be 0")
    else if (ns.zip (ns.drop 1)).any fun (a, b) => b ≤ a then
      .error (say "tab sizes must be ascending")
    else
      match ns, step with
      | [], none => .ok ⟨[], some (8, 0)⟩
      | [n], none => .ok ⟨[], some (n, 0)⟩
      | ns, none => .ok ⟨ns, none⟩
      | ns, some (k, relative) => .ok ⟨ns, some (max k 1, if relative then ns.getLastD 0 else 0)⟩

/-- The arguments with lists of tab stops in the old way made new. -/
def arguments (args : List Text) : List Text :=
  args.map fun a =>
    match a with
    | '-' :: d :: rest => if d.isDigit then '-' :: 't' :: d :: rest else a
    | a => a

end TabStops

/-- Replaces tabs by blanks. -/
def expand (c : Call) : Effect :=
  (c.withArguments (TabStops.arguments c.arguments)).withOptions "it:" ["initial,i", "tabs=,t"] 1
    fun options files =>
    match TabStops.read c (Text.glue ',' ((options.filter fun o => o.1 = "t").map (·.2))) with
    | .error message => c.refuse 1 message
    | .ok stops =>
      let line (l : Text) : Text :=
        (l.foldl (fun (out, column, initial) x =>
          let live := initial || !isSet options "i"
          if x = '\t' && live then
            let n := (stops.next? column).getD (column + 1)
            (out ++ fill ' ' (n - column), n, initial)
          else if x = '\x08' then (out ++ [x], column - 1, false)
          else (out ++ [x], column + 1, initial && x = ' ')) (([], 0, true) : Text × Nat × Bool)).1
      (forContents c files (unreadable c) fun c _ data =>
        c.ok ((wholeLines data).flatMap line)).complaintsFirst

/-- Replaces blanks by tabs. -/
def unexpand (c : Call) : Effect :=
  (c.withArguments (TabStops.arguments c.arguments)).withOptions "at:" ["all,a", "first-only",
    "tabs=,t"] 1 fun options files =>
    match TabStops.read c (Text.glue ',' ((options.filter fun o => o.1 = "t").map (·.2))) with
    | .error message => c.refuse 1 message
    | .ok stops =>
      let all := (isSet options "a" || isSet options "t") && !isSet options "first-only"
      let finish (out blanks : Text) : Text := out ++ blanks
      let line (l : Text) : Text :=
        let r := l.foldl (fun (out, blanks, column, initial) x =>
          if (x = ' ' || x = '\t') && (initial || all) then
            let stop := stops.next? column
            if x = '\t' then (out ++ ['\t'], [], stop.getD (column + 1), initial)
            else if stop = some (column + 1) && (blanks ≠ [] || initial) then
              (out ++ ['\t'], [], column + 1, initial)
            else (out, blanks ++ [' '], column + 1, initial)
          else (finish out blanks ++ [x], [], column + 1, false))
          (([], [], 0, true) : Text × Text × Nat × Bool)
        finish r.1 r.2.1
      (forContents c files (unreadable c) fun c _ data =>
        c.ok ((wholeLines data).flatMap line)).complaintsFirst

/-- Which fields of joined lines are written: the field that they have in common, or a field of one
of the lines. -/
inductive JoinField where
  | common
  | field (file : Nat) (n : Nat)

/-- Joins lines of two sorted files that have a field in common. -/
def join (c : Call) : Effect :=
  c.withOptions "a:e:i1:2:j:o:t:v:z" ["ignore-case,i", "check-order", "nocheck-order",
    "zero-terminated,z", "header"] 1 fun options files =>
    let number (k : String) : Option Nat := (settingOf? options k).bind digits?
    let badField := (options.filter fun o => o.1 = "1" || o.1 = "2" || o.1 = "j").find? fun o =>
      ((digits? o.2).getD 0) = 0
    let fieldsOf (t : Text) : Except Text (List JoinField) :=
      if t = say "auto" then .ok []
      else ((Text.pieces ',' (t.map fun x => if x = ' ' then ',' else x)).filter (· ≠ [])).mapM fun w =>
        match w with
        | ['0'] => .ok .common
        | f :: '.' :: n =>
          if f = '1' || f = '2' then
            match digits? n with
            | some (k + 1) => .ok (.field (f.toNat - 48) (k + 1))
            | _ => .error (say "invalid field number: " ++ c.quote n)
          else .error (say "invalid file number in field spec: " ++ c.quote w)
        | w => .error (say "invalid file number in field spec: " ++ c.quote w)
    let formats := ((options.filter fun o => o.1 = "o").map fun o => fieldsOf o.2)
    let badFormat := formats.findSome? fun r =>
      match r with
      | .error message => some message
      | .ok _ => none
    match badField, badFormat, files with
    | some o, _, _ => c.refuse 1 (say "invalid field number: " ++ c.quote o.2)
    | _, some message, _ => c.refuse 1 message
    | _, _, [] => c.missing "operand"
    | _, _, [a] => c.misuse 1 (say "missing operand after " ++ c.quote a)
    | _, _, _ :: _ :: t :: _ => c.misuse 1 (say "extra operand " ++ c.quote t)
    | none, none, [a, b] =>
      match contentOf c a, contentOf c b with
      | .error fault, _ => unreadable c a fault
      | _, .error fault => unreadable c b fault
      | .ok x, .ok y =>
        let tab := (settingOf? options "t").bind List.head?
        let fields (l : Text) : List Text :=
          match tab with
          | some d => Text.pieces d l
          | none => (Text.pieces ' ' (l.map fun x => if x = '\t' then ' ' else x)).filter (· ≠ [])
        let empty := (settingOf? options "e").getD []
        let k1 := (number "1" <|> number "j").getD 1
        let k2 := (number "2" <|> number "j").getD 1
        let key (k : Nat) (fs : List Text) : Text :=
          let t := fs.getD (k - 1) []
          if isSet options "i" then t.map Char.toLower else t
        let sep := if isSet options "z" then '\x00' else '\n'
        let xs := (piecesOf sep x).map fun l => (l, fields l)
        let ys := (piecesOf sep y).map fun l => (l, fields l)
        let format := formats.flatMap fun r => (r.toOption).getD []
        let joint := tab.getD ' '
        let auto := (options.filter fun o => o.1 = "o").any fun o => o.2 = say "auto"
        let sizes := ((xs.head?.map fun r => r.2.length).getD 0, (ys.head?.map fun r => r.2.length).getD 0)
        let others (k : Nat) (fs : List Text) : List Text :=
          ((fs.zipIdx 1).filter fun f => f.2 ≠ k).map (·.1)
        let filled (k size : Nat) (fs : List Text) : List Text :=
          if auto then ((List.range size).filter fun i => i + 1 ≠ k).map fun i =>
            let t := fs.getD i []
            if t = [] then empty else t
          else others k fs
        let row (p q : Option (List Text)) : Text :=
          let common := match p, q with
            | some fs, _ => fs.getD (k1 - 1) []
            | none, some fs => fs.getD (k2 - 1) []
            | none, none => []
          let orEmpty (t : Text) : Text := if t = [] then empty else t
          let ts := if format ≠ [] then format.map fun f =>
              match f with
              | .common => orEmpty common
              | .field 1 n => orEmpty ((p.getD []).getD (n - 1) [])
              | .field _ n => orEmpty ((q.getD []).getD (n - 1) [])
            else orEmpty common :: (if p.isSome || auto then filled k1 sizes.1 (p.getD []) else []) ++
              (if q.isSome || auto then filled k2 sizes.2 (q.getD []) else [])
          Text.glue joint ts ++ [sep]
        let asks (k : String) (n : Nat) : Bool :=
          options.any fun o => o.1 = k && o.2 = Text.ofNat n
        let pairs := !isSet options "v"
        let shows (n : Nat) : Bool := asks "a" n || asks "v" n
        let rec merged : Nat → List (Text × List Text) → List (Text × List Text) → List (Nat × Text)
          | 0, _, _ => []
          | _ + 1, [], ys => ys.map fun q => (2, if shows 2 then row none (some q.2) else [])
          | _ + 1, xs, [] => xs.map fun p => (1, if shows 1 then row (some p.2) none else [])
          | fuel + 1, p :: xs, q :: ys =>
            let kp := key k1 p.2
            let kq := key k2 q.2
            if kp = kq then
              let ps := p :: xs.takeWhile fun r => key k1 r.2 = kp
              let qs := q :: ys.takeWhile fun r => key k2 r.2 = kq
              (0, if pairs then ps.flatMap fun p => qs.flatMap fun q => row (some p.2) (some q.2)
                else []) :: merged fuel ((p :: xs).drop ps.length) ((q :: ys).drop qs.length)
            else if Text.comesBefore kp kq then
              (1, if shows 1 then row (some p.2) none else []) :: merged fuel xs (q :: ys)
            else (2, if shows 2 then row none (some q.2) else []) :: merged fuel (p :: xs) ys
        let (header, xs, ys) := if isSet options "header" then
            (match xs, ys with
              | p :: _, q :: _ => row (some p.2) (some q.2)
              | _, _ => [], xs.drop 1, ys.drop 1)
          else ([], xs, ys)
        let rows := merged (xs.length + ys.length + 1) xs ys
        let unpaired := rows.any fun r => r.1 ≠ 0
        let disorder (name : Text) (k : Nat) (ls : List (Text × List Text)) : List (Bool × Text) :=
          match (ls.zip (ls.drop 1)).findIdx? fun (l, m) => Text.comesBefore (key k m.2) (key k l.2) with
          | some i => [(true, c.name ++ say ": " ++ name ++ ':' :: Text.ofNat (i + 2) ++
              say ": is not sorted: " ++ ((ls[i + 1]?).map (·.1)).getD [] ++ ['\n'])]
          | none => []
        let faults := if isSet options "nocheck-order" || !(unpaired || isSet options "check-order")
          then [] else disorder a k1 xs ++ disorder b k2 ys
        let e : Effect := ⟨c.disk, faults ++ [(false, header ++ rows.flatMap (·.2))] ++
          (if faults = [] then [] else [(true, c.name ++ say ": input is not in sorted order\n")]),
          if faults = [] then 0 else 1, none, false⟩
        if a = ['-'] || b = ['-'] then e.usingInput else e

end Utility

end Shell
end IconAssets
