import IconAssets.Shell.Regex.Reader
import IconAssets.Shell.Utility.Listing

/-!
# Searching lines

Lines of files are selected by what is found in them, and written, counted or only asked for.  Lines
around them may be written, too; between lines that are not neighbours stands a separator then.
-/

namespace IconAssets
namespace Shell
namespace Utility

open Pattern (pathOf)

/-- What is looked for in lines. -/
structure Sought where
  regexes : List Regex
  /-- Whether only whole words count. -/
  words : Bool
  /-- Whether only whole lines count. -/
  whole : Bool
  /-- Whether the preferred match counts, and not the longest one. -/
  preferred : Bool

namespace Sought

/-- Whether a part of a line is neither preceded nor followed by more of a word. -/
def isWord (s : Array Spelled) (start stop : Nat) : Bool :=
  !((if start = 0 then none else s[start - 1]?).any Regex.isWordUnit) &&
    !(s[stop]?.any Regex.isWordUnit)

/-- The end of the match that starts at a place. -/
def stopAt? (q : Sought) (s : Array Spelled) (start : Nat) : Option Nat :=
  let stops := q.regexes.filterMap fun r =>
    let ms := (Regex.found s r.refers r ⟨start, []⟩).filter fun m =>
      (!q.whole || (start = 0 && m.stop = s.size)) && (!q.words || isWord s start m.stop)
    (if q.preferred then ms.head? else Regex.longest ms).map (·.stop)
  stops.max?

/-- The first match from a place on. -/
def find? (q : Sought) (s : Array Spelled) (start : Nat) : Option (Nat × Nat) :=
  (List.range (s.size + 1 - start)).findSome? fun i =>
    (q.stopAt? s (start + i)).map fun stop => (start + i, stop)

/-- All matches that are not empty, one behind the other; each call takes one step. -/
def all (q : Sought) (s : Array Spelled) : Nat → Nat → List (Nat × Nat)
  | 0, _ => []
  | fuel + 1, start =>
    match q.find? s start with
    | none => []
    | some (first, stop) =>
      if first < stop then (first, stop) :: q.all s fuel stop else q.all s fuel (first + 1)

end Sought

/-- How what is found is told. -/
structure Report where
  settings : List Setting
  sought : Sought
  utf8 : Bool
  ending : Char
  before : Option Nat
  after : Option Nat
  most : Option Nat
  separator : Option Text
  colored : Bool

namespace Report

/-- A text in a color. -/
def paint (r : Report) (color : String) (t : Text) : Text :=
  if r.colored then say "\x1b[" ++ say color ++ say "m\x1b[K" ++ t ++ say "\x1b[m\x1b[K" else t

/-- Whether an option is set. -/
def on (r : Report) (k : String) : Bool := isSet r.settings k

/-- The units of a line. -/
def line (r : Report) (l : Text) : Array Spelled := (Regex.units r.utf8 l).toArray

/-- Whether a line is selected. -/
def selects (r : Report) (l : Text) : Bool := (r.sought.find? (r.line l) 0).isSome ≠ r.on "v"

/-- The parts of a line between the places of matches, the matches in color. -/
def painted (r : Report) (s : Array Spelled) (matches_ : List (Nat × Nat)) : Text :=
  let part (a b : Nat) : Text := Regex.octetsOf (s.extract a b).toList
  let (out, last) := matches_.foldl (fun (state : Text × Nat) m =>
    (state.1 ++ part state.2 m.1 ++ r.paint "01;31" (part m.1 m.2), m.2)) ([], 0)
  out ++ part last s.size

/-- The names, numbers and places in front of a line. -/
def front (r : Report) (name : Option Text) (width : Nat) (sep : Char) (number offset : Nat) : Text :=
  let mark : Text := r.paint "36" [sep]
  let file : Text := match name with
    | none => []
    | some t => r.paint "35" t ++ if r.on "Z" then ['\x00'] else mark
  let number : Text :=
    if r.on "n" then r.paint "32" (padLeft width (Text.ofNat number)) ++ mark else []
  let offset : Text :=
    if r.on "b" then r.paint "32" (padLeft width (Text.ofNat offset)) ++ mark else []
  let all := file ++ number ++ offset
  if r.on "T" && all ≠ [] then all ++ ['\t'] else all

/-- A line as it is written; `none` if it cannot be shown. -/
def written (r : Report) (name : Option Text) (width : Nat) (isSelected : Bool)
    (number offset : Nat) (l : Text) : Option Text :=
  let s := r.line l
  let sep := if isSelected then ':' else '-'
  let front (offset : Nat) : Text := r.front name width sep number offset
  if !r.on "a" && s.any (fun u => u.char.isNone) then none
  else if r.on "o" then
    if isSelected && !r.on "v" then
      some ((r.sought.all s (s.size + 2) 0).flatMap fun m =>
        front (offset + (Regex.octetsOf (s.extract 0 m.1).toList).length) ++
          r.paint "01;31" (Regex.octetsOf (s.extract m.1 m.2).toList) ++ [r.ending])
    else some []
  else
    let body := if r.colored && isSelected && !r.on "v" then
        r.painted s (r.sought.all s (s.size + 2) 0) else l
    some (front offset ++ body ++ [r.ending])

/-- A line with its number, the place where it starts, and whether it is selected. -/
structure Numbered where
  number : Nat
  offset : Nat
  text : Text
  selected : Bool

/-- The lines of a file up to the last one that may be written. -/
def numbered (r : Report) (lines : List Text) : List Numbered :=
  let step (state : List Numbered × Nat × Nat × Nat × Bool) (l : Text) :
      List Numbered × Nat × Nat × Nat × Bool :=
    let (done, number, offset, selected, complete) := state
    if complete then state
    else
      let isSelected := r.selects l
      let isFull := r.most.any (· ≤ selected)
      let next := offset + l.length + 1
      if isFull && isSelected then (done, number, next, selected, true)
      else (⟨number, offset, l, isSelected⟩ :: done, number + 1, next,
        if isSelected then selected + 1 else selected, false)
  (lines.foldl step ([], 1, 0, 0, false)).1.reverse

/-- Whether lines around those that are selected are written, too. -/
def hasContext (r : Report) : Bool := r.before.isSome || r.after.isSome

/-- The lines that are written. -/
def shown (r : Report) (ls : List Numbered) : List Numbered :=
  let chosen := ls.filter (·.selected)
  if !r.hasContext then chosen
  else
    let last := (chosen.getLast?.map (·.number)).getD 0
    ls.filter fun l =>
      chosen.any fun m => m.number ≤ l.number + r.before.getD 0 &&
        l.number ≤ m.number + r.after.getD 0 && (m.number ≤ l.number || l.number ≤ last)

/-- What is written of a file: the text, whether something could not be shown, and whether
something has been written of this or an earlier file. -/
def body (r : Report) (name : Option Text) (width : Nat) (used : Bool) (ls : List Numbered) :
    Text × Bool × Bool :=
  let step (state : List Text × Bool × Bool × Nat) (l : Numbered) : List Text × Bool × Bool × Nat :=
    let (out, hidden, used, last) := state
    let gap : Text :=
      if r.hasContext && used && (last = 0 || last + 1 ≠ l.number) then
        match r.separator with
        | some t => r.paint "36" t ++ ['\n']
        | none => []
      else []
    match r.written name width l.selected l.number l.offset l.text with
    | some t => ((gap ++ t) :: out, hidden, true, l.number)
    | none => (gap :: out, true, true, l.number)
  let (out, hidden, used, _) := (r.shown ls).foldl step ([], false, used, 0)
  (out.reverse.flatten, hidden, used)

end Report

/-- The way of writing of the patterns of a search. -/
def searchManner (settings : List Setting) : Regex.Manner :=
  let extended := (lastOf settings ["E", "F", "G", "P"]).any fun k => k = "E" || k = "P"
  { extended
    looseStar := if extended then .skipped else .literal
    looseBrace := if extended then .skipped else .literal
    refusesDouble := false
    keepsBraces := extended
    keepsClosing := extended
    refusesBareClass := true
    escapesInSets := false
    hasShorthands := true
    ignoresCase := lastOf settings ["i", "y", "no-ignore-case"] ∈ [some "i", some "y"]
    perLine := false }

/-- A complaint with a reminder of how searches are asked for. -/
def searchMisuse (c : Call) (message : Text) : Effect :=
  let usage := say "Usage: grep [OPTION]... PATTERNS [FILE]...\nTry 'grep --help' for more information.\n"
  ⟨c.disk, [(true, (if message = [] then [] else c.name ++ say ": " ++ message ++ ['\n']) ++ usage)],
    2, none, false⟩

/-- A pattern with the letters for digits and other sets that only one of the languages knows. -/
def withDigitSets (t : Text) : Text :=
  match t with
  | '\\' :: 'd' :: t => say "[0-9]" ++ withDigitSets t
  | '\\' :: 'D' :: t => say "[^0-9]" ++ withDigitSets t
  | '\\' :: 't' :: t => '\t' :: withDigitSets t
  | '\\' :: c :: t => '\\' :: c :: withDigitSets t
  | c :: t => c :: withDigitSets t
  | [] => []

/-- Reads the patterns of a search; the answer holds the warnings, too. -/
def soughtOf (settings : List Setting) (utf8 : Bool) (patterns : List Text) :
    Except Regex.Fault (Sought × List Text) := do
  let manner := searchManner settings
  let kind := (lastOf settings ["E", "F", "G", "P"]).getD "G"
  let readings ← patterns.mapM fun t =>
    if kind = "F" then .ok ⟨Regex.ofUnits manner (Regex.units utf8 t), 0, []⟩
    else Regex.read manner (Regex.units utf8 (if kind = "P" then withDigitSets t else t))
  let warnings := (readings.flatMap (·.skipped)).map fun x =>
    say "warning: " ++ (if x = '\x7b' then say "\x7b...\x7d" else [x]) ++ say " at start of expression"
  return (⟨readings.map (·.regex), isSet settings "w", isSet settings "x", kind = "P"⟩, warnings)

/-- The files that are searched for an operand, in order, each with whether it was found in a
folder; `none` stands for a folder that is not searched. -/
def searchedFiles (d : Volume) (settings : List Setting) (base : Bool) : Nat → Text →
    List (Text × Bool × Bool)
  | 0, _ => []
  | fuel + 1, t =>
    let name := (Text.pieces '/' t).getLast?.getD []
    let hits (k : String) : Bool := settings.any fun s =>
      s.1 = k && Pattern.matchesText (Pattern.ofText false s.2) name
    let recursive := isSet settings "r" || isSet settings "R" ||
      (settings.any fun s => s.1 = "d" && s.2 = "recurse".toList)
    if !isInput t && d.isFolder (pathOf t) then
      if !recursive then [(t, base, true)]
      else if hits "exclude-dir" then []
      else
        match d.resolve (pathOf t) with
        | .error _ => []
        | .ok p =>
          (Text.sortOnce ((d.children p).map ofText)).flatMap fun n =>
            (searchedFiles d settings false fuel (inside t n))
    else if hits "exclude" || ((settings.any fun s => s.1 = "include") && !hits "include") then []
    else [(t, base, false)]

/-- The numbers of a call in the old way, and whether there are any. -/
def oldContext (settings : List Setting) : Option Text :=
  let digits := (settings.filter fun s => s.1.all Char.isDigit).flatMap fun s => s.1.toList
  if digits = [] then none else some digits

/-- How long context may be: a number of lines. -/
def contextLength (c : Call) (t : Text) : Except Effect Nat :=
  match digits? t with
  | some n => .ok n
  | none => .error (c.refuse 2 (t ++ say ": invalid context length argument"))

/-- The patterns of a call, and the other operands. -/
def patternsOf (c : Call) (settings : List Setting) (args : List Text) :
    Except Effect (List Text × List Text) := do
  let given := settings.filter fun s => s.1 = "e" || s.1 = "f"
  if given = [] then
    match args with
    | [] => throw (searchMisuse c [])
    | t :: rest => return (Text.pieces '\n' t, rest)
  else
    let lists ← given.mapM fun s =>
      if s.1 = "e" then .ok (Text.pieces '\n' s.2)
      else
        match contentOf c s.2 with
        | .ok data => .ok (linesOf data)
        | .error fault => .error (c.refuse 2 (s.2 ++ say ": " ++ faultWords fault))
    return (lists.flatten, args)

/-- The names of what may be said of folders. -/
def folderManners : List String := ["read", "recurse", "skip"]

/-- What is known after some files have been searched: what is left behind, whether a line has been
selected, whether something is wrong, and whether lines have been written. -/
structure SearchState where
  effect : Effect
  selected : Bool
  failed : Bool
  used : Bool

/-- Searches one file. -/
def searchFile (c : Call) (r : Report) (named : Bool) (state : SearchState)
    (file : Text × Bool × Bool) : SearchState :=
  let on (k : String) : Bool := r.on k
  let quiet := on "q"
  if quiet && state.selected then state
  else
    let c := { c with disk := state.effect.disk, input := state.effect.rest.getD c.input }
    let t := file.1
    let shownName := if isInput t then
        (settingOf? r.settings "label").getD (say "(standard input)") else t
    let complain (message : Text) : SearchState :=
      { state with
        effect := state.effect.andThen fun _ =>
          if on "s" then c.finish 0 else c.refuse 0 (t ++ say ": " ++ message)
        failed := true }
    if file.2.2 then
      if settingOf? r.settings "d" = some "skip".toList then state
      else complain (faultWords .isFolder)
    else
      match contentOf c t with
      | .error fault => complain (faultWords fault)
      | .ok data =>
        let isBinary := !on "a" && !on "z" && '\x00' ∈ data
        let lines := let ps := Text.pieces r.ending data
          if ps.getLast? = some [] then ps.dropLast else ps
        let ls := if isBinary && on "I" then [] else r.numbered lines
        let count := (ls.filter (·.selected)).length
        let name := if named || !file.2.1 then some shownName else none
        let size := if isInput t && !c.inputIsFile then 9223372036854775807 else
          data.length + if on "n" then 1 else 0
        let width := if on "T" then (Text.ofNat size).length else 0
        let nameLine := r.paint "35" shownName ++ [if on "Z" then '\x00' else '\n']
        let (out, warns, used) : Text × Bool × Bool :=
          if quiet then ([], false, state.used)
          else if on "L" || on "l" then
            (if (lastOf r.settings ["L", "l"] = some "l") = (0 < count : Bool) then nameLine else [],
              false, state.used)
          else if on "c" then
            ((match name with
              | some n => r.paint "35" n ++ if on "Z" then ['\x00'] else r.paint "36" [':']
              | none => []) ++ Text.ofNat count ++ ['\n'], false, state.used)
          else if isBinary then ([], 0 < count, state.used)
          else r.body name width state.used ls
        let e := c.ok out
        let e := if warns then e.andThen fun _ =>
          c.refuse 0 (shownName ++ say ": binary file matches") else e
        let isFull := r.most.any (· ≤ count) || (0 < count && (quiet || on "l" || on "L"))
        let behind := if r.most.any (· ≤ count) then
            (lines.take (((ls.filter (·.selected)).getLast?.map (·.number)).getD 0)).foldl
              (fun n l => n + l.length + 1) 0
          else data.length
        { effect := state.effect.andThen fun _ =>
            if isInput t then { e with rest := data.drop behind, sated := isFull } else e
          selected := state.selected || 0 < count
          failed := state.failed
          used }

/-- Selects lines of files by what is found in them. -/
def grep (c : Call) : Effect :=
  match Options.read (.ofTables "0123456789A:B:C:D:EFGHILPTUVX:abcd:e:f:hilm:noqRrsuvwxyZz"
    ["after-context=,A", "basic-regexp,G", "before-context=,B", "binary,U", "binary-files=",
      "byte-offset,b", "context=,C", "color?=", "colour?=,color", "count,c", "devices=,D",
      "directories=,d", "dereference-recursive,R", "exclude=", "exclude-from=", "exclude-dir=",
      "extended-regexp,E", "file=,f", "files-with-matches,l", "files-without-match,L",
      "fixed-regexp,F", "fixed-strings,F", "group-separator=", "ignore-case,i", "include=",
      "initial-tab,T", "invert-match,v", "label=", "line-buffered", "line-number,n",
      "line-regexp,x", "max-count=,m", "no-ignore-case", "no-filename,h", "no-group-separator",
      "no-messages,s", "null,Z", "null-data,z", "only-matching,o", "perl-regexp,P", "quiet,q",
      "recursive,r", "regexp=,e", "silent,q", "text,a", "unix-byte-offsets,u", "with-filename,H",
      "word-regexp,w"]) c.arguments with
  | .error message => searchMisuse c message
  | .ok (settings, args) =>
    match go settings args with
    | .ok e | .error e => e
where
  /-- Goes on with the settings and the other arguments. -/
  go (settings : List Setting) (args : List Text) : Except Effect Effect := do
    let context (k : String) : Except Effect (Option Nat) :=
      ((settingOf? settings k).mapM (contextLength c))
    let around := (← context "C") <|> (oldContext settings).bind digits?
    let after := (← context "A") <|> around
    let before := (← context "B") <|> around
    let most ← (settingOf? settings "m").mapM fun t =>
      match integer? t with
      | some n => .ok n
      | none => .error (c.refuse 2 (say "invalid max count"))
    match settingOf? settings "d" with
    | some t =>
      if folderManners.any fun m => t.isPrefixOf m.toList then pure ()
      else
        let e := searchMisuse c (say "invalid argument " ++ c.quote t ++ say " for " ++
          c.quote (say "--directories") ++ say "\nValid arguments are:" ++
          folderManners.flatMap fun m => say "\n  - " ++ c.quote (say m))
        throw { e with status := 1 }
    | none => pure ()
    let settings ← match settingOf? settings "binary-files" with
      | none => .ok settings
      | some t =>
        if t = "text".toList then .ok (("a", []) :: settings)
        else if t = "without-match".toList then .ok (("I", []) :: settings)
        else if t = "binary".toList then .ok settings
        else .error (c.refuse 2 (say "unknown binary-files type"))
    let (patterns, files) ← patternsOf c settings args
    let (sought, warnings) ← match soughtOf settings c.speaksUtf8 patterns with
      | .ok r => .ok r
      | .error fault => .error (c.refuse 2 (say fault.message))
    let recursive := isSet settings "r" || isSet settings "R" ||
      settingOf? settings "d" = some "recurse".toList
    let operands := if files = [] then (if recursive then [['.']] else [['-']]) else files
    let most := most.bind fun n => if n < 0 then none else some n.toNat
    let r : Report :=
      { settings, sought, utf8 := c.speaksUtf8
        ending := if isSet settings "z" then '\x00' else '\n'
        before := before
        after := after
        most := most
        separator := match lastOf settings ["group-separator", "no-group-separator"] with
          | some "no-group-separator" => none
          | some k => settingOf? settings k
          | none => some ['-', '-']
        colored := settingOf? settings "color" = some "always".toList }
    if most = some 0 && !isSet settings "L" then return c.finish 1
    let named := match lastOf settings ["H", "h"] with
      | some "H" => true
      | some _ => false
      | none => 1 < files.length
    let found := operands.flatMap fun t =>
      (searchedFiles c.disk settings true (c.disk.height + 2) t).map fun f =>
        (if files = [] && recursive then f.1.drop 2 else f.1,
          f.2.1 || lastOf settings ["H", "h"] = some "h", f.2.2)
    let start : Effect := ⟨c.disk, warnings.map fun t => (true, c.name ++ say ": " ++ t ++ ['\n']), 0, none, false⟩
    let state := found.foldl (searchFile c r named) ⟨start, false, false, false⟩
    let status := if state.failed && !(isSet settings "q" && state.selected) then 2
      else if state.selected then 0 else 1
    return { state.effect with status }

/-- Selects lines with a setting in front of the arguments. -/
def grepAs (option : String) (c : Call) : Effect :=
  grep { c.withArguments (say option :: c.arguments) with name := say "grep" }

end Utility
end Shell
end IconAssets
