import IconAssets.Shell.Difference
import IconAssets.Shell.Utility.Dump
import IconAssets.Shell.Utility.Files

/-!
# Comparing

One utility compares files octet by octet; another one shows how the lines of files or folders differ.
-/

namespace IconAssets
namespace Shell

namespace Utility

open Pattern (pathOf)

/-- A complaint about how a utility that compares is used. -/
def compareMisuse (c : Call) (message : Text) : Effect :=
  (c.refuse 2 message).andThen fun _ => c.refuse 2 (say "Try '" ++ c.name ++ say " --help' for more information.")

/-- Goes on with the settings and the other arguments of a utility that compares. -/
def comparing (c : Call) (letters : String) (names : List String)
    (go : List Setting → List Text → Except Effect Effect) : Effect :=
  match Options.read (.ofTables letters names) c.arguments with
  | .ok (settings, rest) =>
    match go settings rest with
    | .ok e | .error e => e
  | .error message => compareMisuse c message

/-- An octet as a character that can be shown. -/
def shownOctet (b : Nat) : Text :=
  let low (n : Nat) : Text :=
    if n < 32 then ['^', Char.ofNat (n + 64)] else if n = 127 then ['^', '?'] else [Char.ofNat n]
  if b < 128 then low b else 'M' :: '-' :: low (b - 128)

/-- Compares two files octet by octet. -/
def cmp (c : Call) : Effect :=
  comparing c "bci:ln:s" ["print-bytes,b", "print-chars,c", "ignore-initial=,i", "verbose,l",
    "bytes=,n", "silent,s", "quiet,s"] fun options args => do
    let amount (what : String) (t : Text) : Except Effect Nat :=
      match Dump.amount? t with
      | some n => .ok n
      | none => .error (compareMisuse c (say ("invalid --" ++ what ++ " value ") ++ '\'' :: t ++ ['\'']))
    let showsAll := isSet options "l"
    let silent := isSet options "s"
    let showsBytes := isSet options "b" || isSet options "c"
    let most ← (settingOf? options "n").mapM (amount "bytes")
    let skips : List Text := match settingOf? options "i" with
      | some t => if ':' ∈ t then Text.pieces ':' t else [t, t]
      | none => []
    if showsAll && silent then throw (compareMisuse c (say "options -l and -s are incompatible"))
    let (a, b, skips) ← match args with
      | [] => throw (compareMisuse c (say "missing operand after '" ++ c.name ++ ['\'']))
      | [a] => pure (a, ['-'], skips)
      | a :: b :: more =>
        if more.length ≤ 2 then pure (a, b, if skips = [] then more else skips)
        else throw (compareMisuse c (say "extra operand '" ++ more.getD 2 [] ++ ['\'']))
    let skipA ← amount "ignore-initial" (skips.getD 0 ['0'])
    let skipB ← amount "ignore-initial" (skips.getD 1 ['0'])
    let isSame := skipA = skipB && (isInput a && isInput b ||
      (c.disk.hasObject (pathOf a) && c.disk.numberOf? (pathOf a) = c.disk.numberOf? (pathOf b)))
    if isSame then return c.finish 0
    let content (t : Text) : Except Effect Text :=
      match contentOf c t with
      | .ok data => .ok data
      | .error fault => .error (if silent then c.finish 2 else c.refuse 2 (t ++ say ": " ++ faultWords fault))
    let limited (data : Text) : Text := match most with
      | some n => data.take n
      | none => data
    let dataA := limited ((← content a).drop skipA)
    let dataB := limited ((← content b).drop skipB)
    let used (e : Effect) : Effect := if isInput a || isInput b then e.usingInput else e
    let pairs := (dataA.zip dataB).zipIdx.filter fun e => e.1.1 ≠ e.1.2
    let octal (x : Char) : Text := padLeft 3 (Nat.toDigits 8 x.toNat)
    let width := (toString (min dataA.length dataB.length)).length
    let both : Text := dataA.take (min dataA.length dataB.length)
    let ended : Effect :=
      if dataA.length = dataB.length then c.finish (if pairs = [] then 0 else 1)
      else if silent then c.finish 1
      else
        let shorter := if dataA.length < dataB.length then a else b
        let lines := both.count '\n'
        let place : Text :=
          if both = [] then say " which is empty"
          else say (" after byte " ++ toString both.length) ++
            (if showsAll then []
            else if both.getLast? = some '\n' then say (", line " ++ toString lines)
            else say (", in line " ++ toString (lines + 1)))
        c.refuse 1 (say "EOF on " ++ shorter ++ place)
    if showsAll then
      let lines := asLines (pairs.map fun ((x, y), i) =>
        padLeft width (Text.ofNat (i + 1)) ++ ' ' :: octal x ++
          (if showsBytes then ' ' :: padRight 4 (shownOctet x.toNat) else []) ++ ' ' :: octal y ++
          (if showsBytes then ' ' :: shownOctet y.toNat else []))
      return used ((c.ok lines).andThen fun _ => ended)
    match pairs with
    | [] => return used ended
    | ((x, y), i) :: _ =>
      if silent then return used (c.finish 1)
      let unit := if c.speaksUtf8 then "byte " else "char "
      let line := a ++ ' ' :: b ++ say (" differ: " ++ unit ++ toString (i + 1) ++ ", line " ++
          toString ((dataA.take i).count '\n' + 1)) ++
        (if showsBytes then say " is " ++ octal x ++ ' ' :: shownOctet x.toNat ++ ' ' :: octal y ++
          ' ' :: shownOctet y.toNat else [])
      return used { c.ok (line ++ ['\n']) with status := 1 }

/-- How differences are looked for and shown. -/
structure DiffStyle where
  settings : List Setting
  /-- The number of equal lines around changes, if these are shown with what is around them. -/
  around : Option Nat
  /-- The words of the call that are its options. -/
  options : List Text
  /-- What stands for the names of the files. -/
  labels : List Text

namespace DiffStyle

/-- Whether an option is on. -/
def on (s : DiffStyle) (k : String) : Bool := isSet s.settings k

/-- What counts of a line. -/
def key (s : DiffStyle) (line : Text) : Text :=
  let isGap (c : Char) : Bool := c = ' ' || ('\t' ≤ c && c ≤ '\r')
  let small := if s.on "i" then line.map Char.toLower else line
  if s.on "w" then small.filter fun c => !isGap c
  else if s.on "b" then
    let trimmed := (small.reverse.dropWhile isGap).reverse
    (trimmed.foldr (fun c (r : Text) =>
      if isGap c then (if r.head? = some ' ' then r else ' ' :: r) else c :: r) [])
  else small

/-- A line behind a mark. -/
def marked (mark : String) (line : Text) : Text :=
  say mark ++ line ++
    if line.getLast? = some '\n' then [] else say "\n\\ No newline at end of file\n"

/-- The numbers of the first and last of some lines. -/
def range (start count : Nat) : Text :=
  if count ≤ 1 then Text.ofNat (start + count)
  else Text.ofNat (start + 1) ++ ',' :: Text.ofNat (start + count)

/-- A change as it is shown without what is around it. -/
def change (old new : Array Text) (h : Difference.Change) : Text :=
  let letter := if h.newCount = 0 then 'd' else if h.oldCount = 0 then 'a' else 'c'
  let olds := (old.toList.drop h.oldStart).take h.oldCount
  let news := (new.toList.drop h.newStart).take h.newCount
  range h.oldStart h.oldCount ++ letter :: range h.newStart h.newCount ++ ['\n'] ++
    olds.flatMap (marked "< ") ++
    (if letter = 'c' then say "---\n" else []) ++ news.flatMap (marked "> ")

/-- Changes that are shown together, as they are near to each other. -/
def grouped (around : Nat) (hs : List Difference.Change) : List (List Difference.Change) :=
  hs.foldr (fun h groups =>
    match groups with
    | (next :: more) :: rest =>
      if next.oldStart ≤ h.oldStart + h.oldCount + 2 * around then (h :: next :: more) :: rest
      else [h] :: (next :: more) :: rest
    | _ => [[h]]) []

/-- The place of some lines in front of what is around changes. -/
def place (start count : Nat) : Text :=
  if count = 0 then Text.ofNat start ++ say ",0"
  else if count = 1 then Text.ofNat (start + 1)
  else Text.ofNat (start + 1) ++ ',' :: Text.ofNat count

/-- Changes that are near to each other, with what is around them. -/
def group (around : Nat) (old new : Array Text) (hs : List Difference.Change) : Text :=
  match hs.head?, hs.getLast? with
  | some first, some last =>
    let before := min around first.oldStart
    let behind := min around (old.size - (last.oldStart + last.oldCount))
    let oldStart := first.oldStart - before
    let newStart := first.newStart - before
    let oldStop := last.oldStart + last.oldCount + behind
    let newStop := last.newStart + last.newCount + behind
    let lines (a : Array Text) (start stop : Nat) : List Text := (a.extract start stop).toList
    let body := hs.foldl (fun (out, here) h =>
      (out ++ (lines old here h.oldStart).flatMap (marked " ") ++
        (lines old h.oldStart (h.oldStart + h.oldCount)).flatMap (marked "-") ++
        (lines new h.newStart (h.newStart + h.newCount)).flatMap (marked "+"),
        h.oldStart + h.oldCount)) (([] : Text), oldStart)
    say "@@ -" ++ place oldStart (oldStop - oldStart) ++ say " +" ++
      place newStart (newStop - newStart) ++ say " @@\n" ++ body.1 ++
      (lines old body.2 oldStop).flatMap (marked " ")
  | _, _ => []

/-- The changes between two texts. -/
def changes (s : DiffStyle) (old new : Array Text) : List Difference.Change :=
  let all := Difference.between s.key (s.around.getD 0) old new
  let isEmpty (l : Text) : Bool := s.key l = ['\n'] || s.key l = []
  if s.on "B" then
    all.filter fun h =>
      !((old.extract h.oldStart (h.oldStart + h.oldCount)).all isEmpty &&
        (new.extract h.newStart (h.newStart + h.newCount)).all isEmpty)
  else all

/-- How a file is called in front of its changes. -/
def headline (s : DiffStyle) (mark : String) (i : Nat) (name : Text) : Text :=
  say mark ++ ((s.labels[i]?).getD (name ++ say "\t1970-01-01 00:00:00.000000000 +0000")) ++ ['\n']

/-- Compares two texts with names; there may be something to be written in front of differences. -/
def texts (s : DiffStyle) (c : Call) (front a b old new : Text) : Effect :=
  let isBinary := !s.on "a" && ('\x00' ∈ old || '\x00' ∈ new)
  let differing (out : Text) : Effect := { c.ok out with status := 1 }
  let same : Effect :=
    if s.on "s" then c.ok (say "Files " ++ a ++ say " and " ++ b ++ say " are identical\n") else c.finish 0
  if old = new then same
  else if s.on "q" && isBinary then
    differing (say "Files " ++ a ++ say " and " ++ b ++ say " differ\n")
  else if isBinary then differing (say "Binary files " ++ a ++ say " and " ++ b ++ say " differ\n")
  else
    let olds := (wholeLines old).toArray
    let news := (wholeLines new).toArray
    match s.changes olds news with
    | [] => same
    | hs =>
      if s.on "q" then differing (say "Files " ++ a ++ say " and " ++ b ++ say " differ\n")
      else
        differing (front ++
          match s.around with
          | none => hs.flatMap (change olds news)
          | some n => s.headline "--- " 0 a ++ s.headline "+++ " 1 b ++
              (grouped n hs).flatMap (group n olds news))

/-- What a path stands for, in words. -/
def kindOf (c : Call) (path : Text) : Text :=
  ((c.disk.find? (pathOf path)).map kindWords).getD (say "regular file")

/-- Compares two files or folders; the number of levels is limited. -/
def objects (s : DiffStyle) (c : Call) : Nat → Bool → Text → Text → Effect
  | 0, _, _, _ => c.finish 0
  | levels + 1, isTop, a, b =>
    let isFolder (t : Text) : Bool := !isInput t && c.disk.isFolder (pathOf t)
    let isThere (t : Text) : Bool := isInput t || c.disk.hasObject (pathOf t)
    let front : Text :=
      if isTop then [] else Text.glue ' ' (c.name :: s.options ++ [a, b]) ++ ['\n']
    let content (t : Text) : Except Disk.Fault Text :=
      if s.on "N" && !isThere t && (isThere a || isThere b) then .ok [] else contentOf c t
    if isFolder a && isFolder b then
      let names (t : Text) : List Text :=
        match c.disk.resolve (pathOf t) with
        | .ok p => (c.disk.children p).map ofText
        | .error _ => []
      let inA := names a
      let inB := names b
      let all := (inA ++ inB.filter (· ∉ inA)).mergeSort fun x y => Order.ofTexts x y != .gt
      all.foldl (fun e n => e.andThen fun _ =>
        let x := inside a n
        let y := inside b n
        if n ∉ inB && !s.on "N" then
          { c.ok (say "Only in " ++ a ++ say ": " ++ n ++ ['\n']) with status := 1 }
        else if n ∉ inA && !s.on "N" then
          { c.ok (say "Only in " ++ b ++ say ": " ++ n ++ ['\n']) with status := 1 }
        else if isFolder x && isFolder y && !s.on "r" then
          c.ok (say "Common subdirectories: " ++ x ++ say " and " ++ y ++ ['\n'])
        else if isFolder x != isFolder y && isThere x && isThere y then
          { c.ok (say "File " ++ x ++ say " is a " ++ kindOf c x ++ say " while file " ++ y ++
            say " is a " ++ kindOf c y ++ ['\n']) with status := 1 }
        else objects s c levels false x y) (c.finish 0)
    else if isTop && isFolder a then objects s c levels isTop (inside a (lastName b)) b
    else if isTop && isFolder b then objects s c levels isTop a (inside b (lastName a))
    else
      match content a, content b with
      | .ok old, .ok new => s.texts c front a b old new
      | x, y =>
        let told (t : Text) (r : Except Disk.Fault Text) : Effect :=
          match r with
          | .ok _ => c.finish 2
          | .error fault => c.refuse 2 (t ++ say ": " ++ faultWords fault)
        (told a x).andThen fun _ => told b y

end DiffStyle

/-- Shows how two files or folders differ. -/
def diff (c : Call) : Effect :=
  comparing c "aBbdiNqrsuU:wL:" ["text,a", "ignore-blank-lines,B", "ignore-space-change,b", "minimal,d",
    "ignore-case,i", "new-file,N", "brief,q", "recursive,r", "report-identical-files,s", "unified?=,U",
    "ignore-all-space,w", "label=,L", "normal"] fun options args => do
    let around ← (options.filter fun o => o.1 = "u" || o.1 = "U").foldlM (fun (n : Option Nat) o =>
      if o.2 = [] then pure (some (max 3 (n.getD 0)))
      else match digits? o.2 with
        | some k => pure (some (max k (n.getD 0)))
        | none => throw (compareMisuse c (say "invalid context length '" ++ o.2 ++ ['\'']))) none
    match args with
    | [] => throw (compareMisuse c (say "missing operand after '" ++ c.name ++ ['\'']))
    | [a] => throw (compareMisuse c (say "missing operand after '" ++ a ++ ['\'']))
    | a :: b :: extra =>
      if h : extra ≠ [] then throw (compareMisuse c (say "extra operand '" ++ extra.head h ++ ['\'']))
      let labels := options.filterMap fun o => if o.1 = "L" then some o.2 else none
      let style : DiffStyle := ⟨options, around, (c.arguments.erase a).erase b, labels⟩
      let e := if isInput a && isInput b then style.texts c [] a b [] []
        else style.objects c (c.disk.height + 2) true a b
      return if isInput a || isInput b then e.usingInput else e

end Utility

end Shell
end IconAssets
