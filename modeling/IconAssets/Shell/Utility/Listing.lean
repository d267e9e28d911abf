import IconAssets.Shell.Calendar.Format
import IconAssets.Shell.Rights
import IconAssets.Shell.Utility.Order

/-!
# Listings

Files and the names in folders, one on a line, in columns, between commas or with what is known of
each.  Files that are named come first, then the folders, each behind its name if something else is
listed, too.
-/

namespace IconAssets
namespace Shell
namespace Utility

open Pattern (pathOf)

/-- How the entries of a listing are laid out. -/
inductive Layout where
  | lines
  | long
  | commas
  /-- In columns, which are filled one after the other or in parallel. -/
  | columns (across : Bool)
  deriving DecidableEq

/-- An entry of a listing: the name that is shown, and what is there. -/
structure Entry where
  name : Text
  node : Node
  /-- The number of the node. -/
  number : Nat
  /-- The number of names for it. -/
  links : Nat

/-- A name behind a folder. -/
def inside (folder name : Text) : Text :=
  if folder.getLast? = some '/' then folder ++ name else folder ++ '/' :: name

namespace Entry

/-- The number of bytes. -/
def size (e : Entry) : Nat := e.node.size

/-- The number of kibibytes that are taken. -/
def blocks (e : Entry) : Nat := (e.size + 4095) / 4096 * 4

/-- Whether it is a folder. -/
def isFolder (e : Entry) : Bool := e.node.isFolder

/-- Whether it is a file that may be run. -/
def isRunnable (e : Entry) : Bool := e.node.isFile && e.node.isRunnable

/-- The letter for the kind. -/
def letter (e : Entry) : Char :=
  match e.node.body with
  | .folder _ => 'd'
  | .file _ => '-'
  | .device _ => 'c'
  | .pipe _ => 'p'

/-- The rights in letters behind the letter for the kind. -/
def rights (e : Entry) : Text := e.letter :: Rights.letters e.node.rights

/-- The node at a place, under a name. -/
def at? (d : Volume) (p : Place) (name : Text) : Option Entry := do
  let k ← d.number? p
  let n ← d.node? k
  return ⟨name, n, k, d.links k⟩

end Entry

/-- How a listing is made. -/
structure ListingStyle where
  layout : Layout
  settings : List Setting
  width : Nat
  tab : Nat
  /-- What stands behind each entry. -/
  ending : Char
  utf8 : Bool
  /-- The time at which it is made. -/
  time : Int

namespace ListingStyle

/-- Whether an option is on. -/
def on (s : ListingStyle) (k : String) : Bool := isSet s.settings k

/-- A size with a unit that makes it short. -/
def shortSize (n : Nat) : Text :=
  let units := ['K', 'M', 'G', 'T', 'P']
  let scaled := (units.zipIdx 1).find? fun u => n < Nat.pow 1024 (u.2 + 1)
  match scaled with
  | some (u, k) =>
    if n < 1024 then Text.ofNat n
    else
      let unit := Nat.pow 1024 k
      let tenths := (n * 10 + unit - 1) / unit
      if tenths < 100 then Text.ofNat (tenths / 10) ++ '.' :: Text.ofNat (tenths % 10) ++ [u]
      else Text.ofNat ((n + unit - 1) / unit) ++ [u]
  | none => Text.ofNat n

/-- A size as it is shown. -/
def sizeText (s : ListingStyle) (n : Nat) : Text :=
  if s.on "h" || s.on "si" then shortSize n else Text.ofNat n

/-- A number of kibibytes as it is shown. -/
def blocksText (s : ListingStyle) (n : Nat) : Text :=
  if s.on "h" || s.on "si" then shortSize (n * 1024) else Text.ofNat n

/-- The way in which names are quoted. -/
def quoting (s : ListingStyle) : String :=
  match s.settings.reverse.find? fun o => o.1 ∈ ["Q", "b", "N", "quoting-style"] with
  | some ("Q", _) => "c"
  | some ("b", _) => "escape"
  | some ("quoting-style", v) => String.ofList v
  | _ => "literal"

/-- A name with what tells its kind. -/
def nameText (s : ListingStyle) (e : Entry) : Text :=
  let plain := match s.quoting with
    | "c" => '"' :: (spelled s.utf8 e.name).flatMap (fun x =>
        if x.octets = ['"'] || x.octets = ['\\'] then '\\' :: x.octets
        else if x.isVisible then x.octets else escaped x) ++ ['"']
    | "escape" => (spelled s.utf8 e.name).flatMap fun x =>
        if x.octets = [' '] || x.octets = ['\\'] then '\\' :: x.octets
        else if x.isVisible then x.octets else escaped x
    | "shell" | "shell-escape" => quoteIfOdd s.utf8 e.name
    | "shell-always" | "shell-escape-always" => quoteAlways s.utf8 e.name
    | _ => e.name
  let colored :=
    if ((settingOf? s.settings "color").map String.ofList).any (· ∈ ["", "always", "yes", "force"]) then
      if e.isFolder then say "\x1b[0m\x1b[01;34m" ++ plain ++ say "\x1b[0m"
      else if e.isRunnable then say "\x1b[0m\x1b[01;32m" ++ plain ++ say "\x1b[0m"
      else plain
    else plain
  let mark := match s.settings.reverse.find? fun o => o.1 ∈ ["F", "p", "file-type", "indicator-style"] with
    | some ("F", _) => "classify"
    | some ("indicator-style", v) => String.ofList v
    | some (_, _) => "slash"
    | none => "none"
  colored ++
    (if e.isFolder && mark ≠ "none" then ['/']
    else if e.isRunnable && mark = "classify" then ['*']
    else if e.node.isPipe && mark ∈ ["classify", "file-type"] then ['|']
    else [])

/-- The entries in order. -/
def inOrder (s : ListingStyle) (es : List Entry) : List Entry :=
  let key := match s.settings.reverse.find? fun o => o.1 ∈ ["S", "X", "v", "U", "f", "t", "sort"] with
    | some ("sort", v) => (([("size", "S"), ("extension", "X"), ("version", "v"), ("none", "U"),
        ("width", "W"), ("time", "t")]).lookup (String.ofList v)).getD ""
    | some (k, _) => k
    | none => ""
  let ending (e : Entry) : Text :=
    ((List.range e.name.length).reverse.find? fun i => e.name[i]? = some '.').elim [] fun i => e.name.drop i
  let order (a b : Entry) : Ordering :=
    let names := Order.ofTexts a.name b.name
    match key with
    | "S" => Order.first (compare b.size a.size) names
    | "X" => Order.first (Order.ofTexts (ending a) (ending b)) names
    | "v" => Order.ofVersions a.name b.name
    | "W" => Order.first (compare a.name.length b.name.length) names
    | "t" => Order.first (compare b.node.changed a.node.changed) names
    | "U" | "f" => .eq
    | _ => names
  let kind (e : Entry) : Nat :=
    if s.on "group-directories-first" && !e.isFolder then 1 else 0
  es.mergeSort fun a b =>
    Order.first (compare (kind a) (kind b)) (Order.turned (s.on "r") (order a b)) ≠ .gt

/-- Blanks and tabs from one column to another. -/
def indent (s : ListingStyle) : Nat → Nat → Nat → Text
  | 0, _, _ => []
  | fuel + 1, start, stop =>
    if stop ≤ start then []
    else if s.tab ≠ 0 && (start + 1) / s.tab < stop / s.tab then
      '\t' :: indent s fuel (start + s.tab - start % s.tab) stop
    else ' ' :: indent s fuel (start + 1) stop

/-- The number of characters of a name. -/
def lengthOf (s : ListingStyle) (t : Text) : Nat := (spelled s.utf8 t).length

/-- The widths of the columns for a number of them. -/
def columnWidths (across : Bool) (lengths : List Nat) (columns : Nat) : List Nat :=
  let n := lengths.length
  let rows := (n + columns - 1) / columns
  let columnOf (i : Nat) : Nat := if across then i % columns else i / rows
  (List.range columns).map fun c =>
    ((lengths.zipIdx 0).filter fun l => columnOf l.2 = c).foldl
      (fun w l => max w (l.1 + if c + 1 = columns then 0 else 2)) 3

/-- Names in columns. -/
def columnText (s : ListingStyle) (across : Bool) (names : List Text) : Text :=
  let lengths := names.map s.lengthOf
  let n := names.length
  let most := min n (s.width / 3 + if s.width % 3 = 0 then 0 else 1)
  let fits (c : Nat) : Bool := (columnWidths across lengths c).foldl (· + ·) 0 < s.width
  let columns := (((List.range (most + 1)).reverse.find? fun c => 1 < c && fits c)).getD 1
  let widths := columnWidths across lengths columns
  let rows := (n + columns - 1) / columns
  (List.range rows).flatMap fun r =>
    let cells := (List.range columns).filterMap fun c =>
      let i := if across then r * columns + c else c * rows + r
      (names[i]?).map fun t => (t, (lengths[i]?).getD 0, (widths[c]?).getD 0)
    (cells.zipIdx 1).foldl (fun (out, start) ((t, length, width), k) =>
      if k = cells.length then (out ++ t ++ ['\n'], 0)
      else (out ++ t ++ s.indent 200 (start + length) (start + width), start + width))
      (([], 0) : Text × Nat) |>.1

/-- Names between commas, on lines that are not too long. -/
def commaText (s : ListingStyle) (names : List Text) : Text :=
  if names = [] then []
  else
    ((names.foldl (fun (out, column) t =>
      let length := s.lengthOf t
      if out = [] then (t, length)
      else if column + 2 + length < s.width then (out ++ say ", " ++ t, column + 2 + length)
      else (out ++ say ",\n" ++ t, length)) (([], 0) : Text × Nat)).1) ++ ['\n']

/-- The names of the ways in which times are told. -/
def timeStyles : List String := ["full-iso", "long-iso", "iso", "locale"]

/-- The name of a way in which times are told, without what is left out in most places. -/
def timeStyleName (t : Text) : String :=
  String.ofList (if (say "posix-").isPrefixOf t then t.drop 6 else t)

/-- The time of the last change of an entry.  The time of day is told for half a year. -/
def timeText (s : ListingStyle) (e : Entry) : Text :=
  let time := e.node.changed
  let isRecent : Bool := time ≤ s.time && s.time - 15778476 * Moment.resolution < time
  let format : Text := match s.settings.reverse.find? fun o => o.1 = "time-style" || o.1 = "full-time" with
    | some ("full-time", _) => say "%F %T.%N %z"
    | some (_, '+' :: t) =>
      let first := t.takeWhile (· ≠ '\n')
      if isRecent && first.length < t.length then t.drop (first.length + 1) else first
    | some (_, t) =>
      match timeStyleName t with
      | "full-iso" => say "%F %T.%N %z"
      | "long-iso" => say "%F %H:%M"
      | "iso" => if isRecent then say "%m-%d %H:%M" else say "%F "
      | _ => if isRecent then say "%b %e %H:%M" else say "%b %e  %Y"
    | none => if isRecent then say "%b %e %H:%M" else say "%b %e  %Y"
  (Moment.ofTime time).text format

/-- A line with what is known of an entry; the columns are as wide as those of all entries. -/
def longLine (s : ListingStyle) (all : List Entry) (e : Entry) : Text :=
  let width (f : Entry → Text) : Nat := all.foldl (fun w x => max w (f x).length) 0
  let links (x : Entry) : Text := Text.ofNat x.links
  let size (x : Entry) : Text := s.sizeText x.size
  let person := if s.on "n" then ['0'] else say "root"
  e.rights ++ ' ' :: padLeft (width links) (links e) ++
    (if s.on "g" then [] else ' ' :: person) ++
    (if s.on "o" || s.on "G" then [] else ' ' :: person) ++
    (if s.on "author" then ' ' :: person else []) ++
    ' ' :: padLeft (width size) (size e) ++ ' ' :: s.timeText e ++ ' ' :: s.nameText e

/-- Entries as they are laid out. -/
def text (s : ListingStyle) (es : List Entry) : Text :=
  let es := s.inOrder es
  let blockWidth := es.foldl (fun w e => max w (s.blocksText e.blocks).length) 0
  let numberWidth := es.foldl (fun w e => max w (Text.ofNat e.number).length) 0
  let framed (t : Text) (e : Entry) : Text :=
    let t := if s.on "s" then padLeft blockWidth (s.blocksText e.blocks) ++ ' ' :: t else t
    if s.on "i" then padLeft numberWidth (Text.ofNat e.number) ++ ' ' :: t else t
  let names := es.map fun e => framed (s.nameText e) e
  match s.layout with
  | .lines => names.flatMap fun t => t ++ [s.ending]
  | .long => es.flatMap fun e => framed (s.longLine es e) e ++ [s.ending]
  | .commas => s.commaText names
  | .columns across => s.columnText across names

/-- The line with the room that entries take, where it is shown. -/
def totalLine (s : ListingStyle) (es : List Entry) : Text :=
  if s.layout = .long || s.on "s" then
    say "total " ++ s.blocksText (es.foldl (fun n e => n + e.blocks) 0) ++ ['\n']
  else []

/-- The entries of a folder that are shown. -/
def entriesOf (s : ListingStyle) (d : Volume) (p : Place) : List Entry :=
  let all := s.settings.reverse.find? fun o => o.1 ∈ ["a", "A", "f"]
  let names := (d.children p).filter fun n => all.isSome || n.head? ≠ some '.'
  let ignored (n : Text) : Bool :=
    s.settings.any fun o =>
      (o.1 = "I" || (o.1 = "hide" && all.isNone)) && Pattern.matchesText (Pattern.ofText false o.2) n
  let names := names.filter fun n =>
    !ignored (Shell.ofText n) && !(s.on "B" && n.getLast? = some '~')
  let dots := if all.any fun o => o.1 ≠ "A" then
      (Entry.at? d p ['.']).toList ++ (Entry.at? d p.dropLast ['.', '.']).toList
    else []
  dots ++ names.filterMap fun n => Entry.at? d (p ++ [n]) (Shell.ofText n)

/-- The blocks of a folder and of the folders in it, each with its name. -/
def folderBlocks (s : ListingStyle) (d : Volume) : Nat → Text → Place → List (Text × Text)
  | 0, _, _ => []
  | levels + 1, name, p =>
    let es := s.entriesOf d p
    let deeper := if s.on "R" then
        ((s.inOrder es).filter fun e => e.isFolder && e.name ≠ ['.'] && e.name ≠ ['.', '.']).flatMap
          fun e => folderBlocks s d levels (inside name e.name) (p ++ [toText e.name])
      else []
    (name, s.totalLine es ++ s.text es) :: deeper

end ListingStyle

/-- The layout that options ask for. -/
def layoutOf (start : Layout) (options : List Setting) : Layout :=
  options.foldl (fun l o =>
    match o.1, String.ofList o.2 with
    | "1", _ => if l = .long then l else .lines
    | "l", _ | "n", _ | "g", _ | "o", _ | "full-time", _ | "format", "long" | "format", "verbose" =>
      .long
    | "m", _ | "format", "commas" => .commas
    | "C", _ | "format", "vertical" => .columns false
    | "x", _ | "format", "across" | "format", "horizontal" => .columns true
    | "zero", _ | "format", "single-column" => .lines
    | _, _ => l) start

/-- Lists files and the names in folders; some settings are made in front of the options. -/
def listing (start : Layout) (first : List Setting) (c : Call) : Effect :=
  c.withOptions "aAbBcCdDfFgGhHiI:klLmnNopqQrRsStT:uUvw:xXZ1" ["all,a", "almost-all,A", "escape,b",
    "ignore-backups,B", "directory,d", "classify?=,F", "dired,D", "full-time", "no-group,G",
    "group-directories-first", "human-readable,h", "si", "inode,i", "ignore=,I", "hide=",
    "kibibytes,k", "numeric-uid-gid,n", "literal,N", "file-type", "indicator-style=",
    "hide-control-chars,q", "show-control-chars", "quote-name,Q", "quoting-style=", "reverse,r",
    "recursive,R", "size,s", "sort=", "format=", "time=", "time-style=", "tabsize=,T", "width=,w",
    "color?=", "author", "block-size=", "context,Z", "dereference,L", "dereference-command-line,H",
    "dereference-command-line-symlink-to-dir", "hyperlink?=", "zero"] 2 fun options targets =>
    let options := first ++ options
    let bad := options.findSome? fun o =>
      let wrong (name : String) (values : List (List String)) : Option Text :=
        if values.any fun vs => String.ofList o.2 ∈ vs then none
        else some (choices c o.2 name values)
      match o.1 with
      | "sort" => wrong "--sort"
          [["none"], ["time"], ["size"], ["extension"], ["version"], ["width"]]
      | "format" => wrong "--format"
          [["verbose", "long"], ["commas"], ["horizontal", "across"], ["vertical"], ["single-column"]]
      | "indicator-style" => wrong "--indicator-style"
          [["none"], ["slash"], ["file-type"], ["classify"]]
      | "quoting-style" => wrong "--quoting-style"
          [["literal"], ["shell"], ["shell-always"], ["shell-escape"], ["shell-escape-always"], ["c"],
            ["c-maybe"], ["escape"], ["locale"], ["clocale"]]
      | "time-style" =>
        if o.2.head? = some '+' || ListingStyle.timeStyles.contains (ListingStyle.timeStyleName o.2) then none
        else some (say "invalid argument " ++ c.quote o.2 ++ say " for " ++ c.quote (say "time style") ++
          say ("\nValid arguments are:\n  - [posix-]full-iso\n  - [posix-]long-iso\n" ++
            "  - [posix-]iso\n  - [posix-]locale\n" ++
            "  - +FORMAT (e.g., +%H:%M) for a 'date'-style format"))
      | _ => none
    match bad with
    | some message => { c.misuse 1 message with status := 1 }
    | none =>
      let number (k : String) (default : Nat) : Nat :=
        ((settingOf? options k).bind digits?).getD default
      let s : ListingStyle :=
        ⟨layoutOf start options, options, number "w" 80, number "T" 8,
          if isSet options "zero" then '\x00' else '\n', c.speaksUtf8, c.disk.clock⟩
      let d := c.disk
      let targets := if targets = [] then [['.']] else targets
      let found := targets.map fun t =>
        match d.resolve (pathOf t) with
        | .error e => Except.error (say "cannot access " ++ c.named t ++ say ": " ++ faultWords e)
        | .ok p =>
          match Entry.at? d p t with
          | some e => .ok (e, p)
          | none => .error []
      let faults := found.filterMap fun r =>
        match r with
        | .error message => some message
        | .ok _ => none
      let there := found.filterMap Except.toOption
      let isOpened (e : Entry) : Bool := e.isFolder && !s.on "d"
      let files := (there.map (·.1)).filter fun e => !isOpened e
      let folders := s.inOrder ((there.map (·.1)).filter isOpened)
      let placeOf (e : Entry) : Place := ((there.find? fun r => r.1.name = e.name).map (·.2)).getD []
      let blocks := folders.flatMap fun e => s.folderBlocks d (d.height + 1) e.name (placeOf e)
      let announced := 1 < targets.length || s.on "R"
      let shown := (if files = [] then [] else [s.text files]) ++ blocks.map fun b =>
        if announced then b.1 ++ ':' :: '\n' :: b.2 else b.2
      ⟨d, (faults.map fun m => (true, c.name ++ say ": " ++ m ++ ['\n'])) ++
        [(false, Text.glue '\n' shown)], if faults = [] then 0 else 2, none, false⟩

/-- Lists files, one on a line. -/
def ls : Call → Effect := listing .lines []

/-- Lists files in columns. -/
def dir : Call → Effect := listing (.columns false) [("b", [])]

/-- Lists files with what is known of them. -/
def vdir : Call → Effect := listing .long [("b", [])]

end Utility
end Shell
end IconAssets
