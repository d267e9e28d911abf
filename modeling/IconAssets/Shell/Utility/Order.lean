import IconAssets.Shell.Utility.Lines

/-!
# Orders of lines

Texts are put in order by their bytes, as numbers, as months, as sizes or as versions, and by parts
of them.  Each order is a three-way comparison.
-/

namespace IconAssets
namespace Shell
namespace Order

/-- A comparison with its sides exchanged if asked to. -/
def turned (turn : Bool) (o : Ordering) : Ordering := if turn then o.swap else o

/-- The first comparison that tells two texts apart. -/
def first (o : Ordering) (next : Ordering) : Ordering :=
  match o with
  | .eq => next
  | o => o

/-- The order of the bytes. -/
def ofTexts (a b : Text) : Ordering :=
  if Text.comesBefore a b then .lt else if a = b then .eq else .gt

/-- The text from its first character that is no blank. -/
def skipBlanks (t : Text) : Text := t.dropWhile fun c => c = ' ' || c = '\t' || c = '\n'

/-- The decimal number at the start of a text: a numerator and the number of its decimals. -/
def decimalAt (t : Text) : Int × Nat :=
  let (negative, u) : Bool × Text := match t with
    | '-' :: u => (true, u)
    | u => (false, u)
  let whole := u.takeWhile Char.isDigit
  let decimals := match u.drop whole.length with
    | '.' :: v => v.takeWhile Char.isDigit
    | _ => []
  (signed negative (digitsAt 10 0 (whole ++ decimals)).1, decimals.length)

/-- The order of the decimal numbers at the start. -/
def ofDecimals (a b : Text) : Ordering :=
  let (m, i) := decimalAt a
  let (n, j) := decimalAt b
  compare (m * Nat.pow 10 j) (n * Nat.pow 10 i)

/-- The order of the sizes at the start: first by their units. -/
def ofSizes (a b : Text) : Ordering :=
  let unit (t : Text) : Int :=
    let (negative, u) : Bool × Text := match t with
      | '-' :: u => (true, u)
      | u => (false, u)
    let number := u.takeWhile fun c => c.isDigit || c = '.'
    let rank := (['K', 'M', 'G', 'T', 'P', 'E', 'Z', 'Y', 'R', 'Q'].findIdx? fun c =>
      (u.drop number.length).head?.any fun d => d = c || (d = 'k' && c = 'K')).elim 0 (· + 1)
    if number.any fun c => c.isDigit && c ≠ '0' then signed negative rank else 0
  first (compare (unit a) (unit b)) (ofDecimals a b)

/-- The number of the month at the start; zero if there is none. -/
def monthOf (t : Text) : Nat :=
  let name := (t.take 3).map Char.toUpper
  (["JAN", "FEB", "MAR", "APR", "MAY", "JUN", "JUL", "AUG", "SEP", "OCT", "NOV", "DEC"].findIdx?
    fun m => m.toList = name).elim 0 (· + 1)

/-- The rank of a character in versions; the end of a text has one, too. -/
def versionRank : Option Char → Int
  | none => -1
  | some c =>
    if c.isDigit then 0
    else if c.isAlpha then c.toNat
    else if c = '~' then -2
    else c.toNat + 256

/-- The order of versions: parts without digits by rank, and numbers by their values. -/
def ofVersionParts : Nat → Text → Text → Ordering
  | 0, _, _ => .eq
  | _ + 1, [], [] => .eq
  | fuel + 1, a, b =>
    if a.head?.any (fun c => !c.isDigit) || b.head?.any (fun c => !c.isDigit) then
      first (compare (versionRank a.head?) (versionRank b.head?)) (ofVersionParts fuel a.tail b.tail)
    else
      let m := a.takeWhile Char.isDigit
      let n := b.takeWhile Char.isDigit
      first (compare (digitsAt 10 0 m).1 (digitsAt 10 0 n).1)
        (ofVersionParts fuel (a.drop m.length) (b.drop n.length))

/-- Whether a text is a row of endings of file names. -/
def isEnding : Nat → Text → Bool
  | 0, _ => false
  | _ + 1, [] => true
  | fuel + 1, '.' :: c :: t =>
    (c.isAlpha || c = '~') && isEnding fuel (t.dropWhile fun x => x.isAlphanum || x = '~')
  | _ + 1, _ => false

/-- A name without its endings. -/
def stem (t : Text) : Text :=
  match ((List.range t.length).map (· + 1)).find? fun k => isEnding (t.length + 1) (t.drop k) with
  | some k => t.take k
  | none => t

/-- The order of names with versions in them. -/
def ofVersions (a b : Text) : Ordering :=
  let rank (t : Text) : Nat :=
    if t = [] then 0 else if t = ['.'] then 1 else if t = ['.', '.'] then 2
    else if t.head? = some '.' then 3 else 4
  let parts (a b : Text) : Ordering := ofVersionParts (a.length + b.length + 1) a b
  first (compare (rank a) (rank b)) (first (parts (stem a) (stem b)) (parts a b))

/-- The number with an exponent at the start of a text, as its class and its value: none at all, not
a number, or a number. -/
def generalAt (t : Text) : Nat × Float :=
  let t := skipGaps t
  let (negative, u) := signAt t
  let sign (x : Float) : Float := if negative then -x else x
  let lower := u.map Char.toLower
  if "inf".toList.isPrefixOf lower then (2, sign (1.0 / 0.0))
  else if "nan".toList.isPrefixOf lower then (1, 0)
  else if "0x".toList.isPrefixOf lower && (lower.drop 2).head?.any fun c => (digit? c).isSome then
    (2, sign (Float.ofNat (digitsAt 16 0 (u.drop 2)).1))
  else
    let whole := u.takeWhile Char.isDigit
    let rest := u.drop whole.length
    let decimals := match rest with
      | '.' :: v => v.takeWhile Char.isDigit
      | _ => []
    if whole = [] && decimals = [] then (0, 0)
    else
      let rest := if rest.head? = some '.' then rest.drop (decimals.length + 1) else rest
      let exponent : Int := match rest with
        | e :: v =>
          let (down, w) := signAt v
          if (e = 'e' || e = 'E') && w.head?.any Char.isDigit then
            signed down (digitsAt 10 0 (w.takeWhile Char.isDigit)).1
          else 0
        | [] => 0
      let n := (digitsAt 10 0 (whole ++ decimals)).1
      let e := exponent - decimals.length
      (2, sign (Float.ofScientific n (e < 0) (min e.natAbs 5000)))

/-- The order of numbers with exponents. -/
def ofGeneral (a b : Text) : Ordering :=
  let (i, x) := generalAt a
  let (j, y) := generalAt b
  first (compare i j) (if x < y then .lt else if y < x then .gt else .eq)

end Order

/-- A part of a line by which it is put in order. -/
structure SortKey where
  /-- The fields and characters that are skipped in front. -/
  start : Nat × Nat
  /-- The fields and characters up to the end; none for the end of the line. -/
  stop : Option (Nat × Nat)
  /-- The letters of the order. -/
  letters : List Char
  blanksAtStart : Bool
  blanksAtStop : Bool

namespace SortKey

open IconAssets.Shell.Order

/-- What is left of a line behind some fields. -/
def behindFields (tab : Option Char) (last : Bool) : Nat → Text → Text
  | 0, t => t
  | n + 1, t =>
    match tab with
    | some c =>
      let rest := t.dropWhile (· ≠ c)
      behindFields tab last n (if n = 0 && last then rest else rest.drop 1)
    | none =>
      let isBlank (c : Char) : Bool := c = ' ' || c = '\t' || c = '\n'
      behindFields tab last n ((t.dropWhile isBlank).dropWhile fun c => !isBlank c)

/-- The part of a line that a key means. -/
def part (k : SortKey) (tab : Option Char) (l : Text) : Text :=
  let from_ := behindFields tab false k.start.1 l
  let from_ := if k.blanksAtStart then skipBlanks from_ else from_
  let from_ := from_.drop k.start.2
  match k.stop with
  | none => from_
  | some (word, char) =>
    let rest :=
      if char = 0 then behindFields tab true (word + 1) l
      else
        let rest := behindFields tab false word l
        (if k.blanksAtStop then skipBlanks rest else rest).drop char
    from_.take (from_.length - rest.length)

/-- Whether a key has an order of its own. -/
def isPlain (k : SortKey) : Bool := k.letters = [] && !k.blanksAtStart && !k.blanksAtStop

/-- A part of a line as far as it counts. -/
def counted (k : SortKey) (t : Text) : Text :=
  let t := if 'd' ∈ k.letters then
      t.filter fun c => c.isAlphanum || c = ' ' || c = '\t' || c = '\n'
    else if 'i' ∈ k.letters then t.filter fun c => ' ' ≤ c && c ≤ '~'
    else t
  if 'f' ∈ k.letters then t.map Char.toUpper else t

/-- Compares two lines by a key. -/
def compare (k : SortKey) (tab : Option Char) (a b : Text) : Ordering :=
  let x := k.part tab a
  let y := k.part tab b
  turned ('r' ∈ k.letters) <|
    if 'n' ∈ k.letters then ofDecimals (skipBlanks x) (skipBlanks y)
    else if 'g' ∈ k.letters then ofGeneral x y
    else if 'h' ∈ k.letters then ofSizes (skipBlanks x) (skipBlanks y)
    else if 'M' ∈ k.letters then
      Ord.compare (monthOf (skipBlanks x)) (monthOf (skipBlanks y))
    else if 'V' ∈ k.letters then ofVersions (k.counted x) (k.counted y)
    else ofTexts (k.counted x) (k.counted y)

/-- The letters of orders. -/
def orderLetters : List Char := ['b', 'd', 'f', 'g', 'h', 'i', 'M', 'n', 'R', 'r', 'V']

/-- What is wrong with a place in a line. -/
abbrev PlaceFault := String × Text

/-- Reads a place in a line: a field, a character and letters. -/
def readPlace (c : Call) (what : String) (spec t : Text) :
    Except Text ((Nat × Option Nat × List Char) × Text) :=
  let bad (message : String) : Except Text ((Nat × Option Nat × List Char) × Text) :=
    .error (say (message ++ ": invalid field specification ") ++ c.quote spec)
  let noCount (what : String) (t : Text) : Except Text ((Nat × Option Nat × List Char) × Text) :=
    .error (say (what ++ ": invalid count at start of ") ++ c.quote t)
  let letters (word : Nat) (char : Option Nat) (t : Text) :
      Except Text ((Nat × Option Nat × List Char) × Text) :=
    let ls := t.takeWhile (· ∈ orderLetters)
    .ok ((word, char, ls), t.drop ls.length)
  let digits := t.takeWhile Char.isDigit
  match digits? digits with
  | none => noCount what t
  | some 0 => bad "field number is zero"
  | some n =>
    match t.drop digits.length with
    | '.' :: u =>
      let digits := u.takeWhile Char.isDigit
      match digits? digits with
      | none => noCount "invalid number after '.'" u
      | some m => letters n (some m) (u.drop digits.length)
    | u => letters n none u

/-- Reads a key. -/
def read (c : Call) (spec : Text) : Except Text SortKey := do
  let bad (message : String) : Except Text SortKey :=
    .error (say (message ++ ": invalid field specification ") ++ c.quote spec)
  let ((word, char, ls), rest) ← readPlace c "invalid number at field start" spec spec
  if char = some 0 then bad "character offset is zero"
  else
    let start := (word - 1, char.elim 0 (· - 1))
    let key (stop : Option (Nat × Nat)) (more : List Char) (atStop : Bool) : SortKey :=
      ⟨start, stop, (ls ++ more).filter (· ≠ 'b'), 'b' ∈ ls, atStop⟩
    match rest with
    | [] => return key none [] false
    | ',' :: u =>
      let ((word, char, more), rest) ← readPlace c "invalid number after ','" spec u
      if rest ≠ [] then bad "stray character in field spec"
      else return key (some (if char.getD 0 = 0 then (word - 1, 0) else (word - 1, char.getD 0))) more ('b' ∈ more)
    | _ => bad "stray character in field spec"

/-- The letters of orders that do not go together, if there are any. -/
def conflict? (k : SortKey) : Option Text :=
  let count (ls : List Char) : Nat := (ls.filter (· ∈ k.letters)).length
  if 1 < count ['n', 'g', 'h', 'M'] + min 1 (count ['V', 'R', 'd', 'i']) then
    some (orderLetters.filter fun x => x ∈ k.letters && x ≠ 'r' && x ≠ 'b' &&
      !(x = 'i' && 'd' ∈ k.letters))
  else none

end SortKey

namespace Utility

open Pattern (pathOf)
open IconAssets.Shell.Order (first turned)

/-- The words that say which values an option may have. -/
def choices (c : Call) (value : Text) (option : String) (values : List (List String)) : Text :=
  say "invalid argument " ++ c.quote value ++ say " for " ++ c.quote (say option) ++
    say "\nValid arguments are:" ++ values.flatMap fun vs =>
      say "\n  - " ++ (vs.map fun v => c.quote (say v)).foldl
        (fun out v => if out = [] then v else out ++ say ", " ++ v) []

/-- Sorts lines. -/
def sort (c : Call) : Effect :=
  c.withOptions "bcCdfghiMmnrRsuVzk:o:t:S:T:" ["ignore-leading-blanks,b", "dictionary-order,d",
    "ignore-case,f", "general-numeric-sort,g", "human-numeric-sort,h", "ignore-nonprinting,i",
    "month-sort,M", "numeric-sort,n", "random-sort,R", "reverse,r", "version-sort,V", "check?=,check",
    "merge,m", "output=,o", "stable,s", "field-separator=,t", "unique,u", "zero-terminated,z",
    "key=,k", "buffer-size=,S", "temporary-directory=,T", "sort=", "parallel=", "batch-size=",
    "compress-program=", "debug"] 2 fun options files =>
    let on (k : String) : Bool := isSet options k
    let words := [("general-numeric", 'g'), ("human-numeric", 'h'), ("month", 'M'), ("numeric", 'n'),
      ("random", 'R'), ("version", 'V')]
    let asked := (settingOf? options "sort").bind fun t => words.lookup (String.ofList t)
    let letters := (SortKey.orderLetters.filter fun x => on (Options.key x)) ++ asked.toList
    let general : SortKey := ⟨(0, 0), none, letters.filter (· ≠ 'b'), 'b' ∈ letters, 'b' ∈ letters⟩
    let read := (options.filter fun o => o.1 = "k").map fun o => SortKey.read c o.2
    let badKey := read.filterMap fun r =>
      match r with
      | .error message => some message
      | .ok _ => none
    let tab := settingOf? options "t"
    let keys := (read.filterMap Except.toOption).map fun k =>
      if k.isPlain then
        { k with
          letters := general.letters
          blanksAtStart := general.blanksAtStart
          blanksAtStop := general.blanksAtStop }
      else k
    let keys := if keys = [] && (general.letters.filter (· ≠ 'r') ≠ [] || 'b' ∈ letters) then [general]
      else keys
    let badTab := tab.bind fun t =>
      if t = [] then some (say "empty tab")
      else if t.length = 1 || t = ['\\', '0'] then none
      else some (say "multi-character tab " ++ c.quote t)
    let badSort := (settingOf? options "sort").filter fun t => (words.lookup (String.ofList t)).isNone
    let checks := on "c" || on "C" || on "check"
    let silent := on "C" || (settingOf? options "check").any fun t =>
      t = "quiet".toList || t = "silent".toList
    match badKey, badTab, badSort, keys.filterMap SortKey.conflict? with
    | message :: _, _, _, _ => c.refuse 2 message
    | _, some message, _, _ => c.refuse 2 message
    | _, _, some t, _ => c.misuse 1 (choices c t "--sort" (words.map fun w => [w.1]))
    | _, _, _, ls :: _ => c.refuse 2 (say "options '-" ++ ls ++ say "' are incompatible")
    | [], none, none, [] =>
      let tab := tab.bind fun t => if t = ['\\', '0'] then some '\x00' else t.head?
      let byKeys (a b : Text) : Ordering :=
        keys.foldl (fun o k => first o (k.compare tab a b)) .eq
      let whole (a b : Text) : Ordering :=
        if (on "u" || on "s") && keys ≠ [] then byKeys a b
        else first (byKeys a b) (turned (on "r") (Order.ofTexts a b))
      let sep := if on "z" then '\x00' else '\n'
      let lines (t : Text) : List Text := (endedPieces sep t).map fun l =>
        if l.getLast? = some sep then l.dropLast else l
      let e := forContents c files
        (fun t fault =>
          if fault = .isFolder then c.refuse 2 (say "read failed: " ++ c.shown t ++ say ": " ++ faultWords fault)
          else c.refuse 2 (say "cannot read: " ++ c.shown t ++ say ": " ++ faultWords fault))
        fun c _ data => c.ok ((lines data).flatMap fun l => l ++ [sep])
      if e.status ≠ 0 then { e with written := (e.written.filter (·.1)).take 1 }
      else if checks then
        let ls := lines e.out
        let bad := (ls.zip (ls.drop 1)).findIdx? fun (a, b) =>
          match whole a b with
          | .gt => true
          | .eq => on "u"
          | .lt => false
        match bad with
        | none => { e with written := [] }
        | some i =>
          if silent then { e with written := [], status := 1 }
          else { c.refuse 1 ((files.headD ['-']) ++ ':' :: Text.ofNat (i + 2) ++ say ": disorder: " ++
            ls.getD (i + 1) []) with rest := e.rest }
      else
        let ls := (lines e.out).mergeSort fun a b => whole a b ≠ .gt
        let ls := if on "u" then distinct (fun a b => whole a b = .eq) ls else ls
        let out := ls.flatMap fun l => l ++ [sep]
        match settingOf? options "o" with
        | none => e.withOut out
        | some file =>
          if file = "/dev/stdout".toList then e.withOut out
          else match c.disk.writeFile (pathOf file) (toBytes out) with
          | .ok d => { Call.changed d with rest := e.rest }
          | .error fault =>
            c.refuse 2 (say "open failed: " ++ c.shown file ++ say ": " ++ faultWords fault)
where
  /-- The first line of each row of equal ones. -/
  distinct (same : Text → Text → Bool) : List Text → List Text
    | [] => []
    | a :: ls =>
      a :: match ls with
        | [] => []
        | _ => distinctBehind same a ls
  /-- The first lines of the rows behind a line that differ from it. -/
  distinctBehind (same : Text → Text → Bool) (a : Text) : List Text → List Text
    | [] => []
    | b :: ls => if same a b then distinctBehind same a ls else b :: distinctBehind same b ls

/-- The runs of lines with equal keys. -/
def runsBy (same : Text → Text → Bool) : List Text → List (List Text)
  | [] => []
  | l :: ls =>
    match runsBy same ls with
    | (m :: run) :: more => if same l m then (l :: m :: run) :: more else [l] :: (m :: run) :: more
    | more => [l] :: more

/-- Leaves out lines that are equal to the line before. -/
def uniq (c : Call) : Effect :=
  c.withOptions "cdDf:is:uw:z" ["count,c", "repeated,d", "all-repeated?=,all-repeated",
    "skip-fields=,f", "group?=", "ignore-case,i", "skip-chars=,s", "unique,u", "zero-terminated,z",
    "check-chars=,w"] 1 fun options files =>
    let on (k : String) : Bool := isSet options k
    let faults := options.filterMap fun (k, t) =>
      let counted (what : String) : Option Text :=
        if (digits? t).isSome then none else some (c.shown t ++ say (": invalid number of " ++ what))
      match k with
      | "f" => counted "fields to skip"
      | "s" => counted "bytes to skip"
      | "w" => counted "bytes to compare"
      | _ => none
    let number (k : String) : Option Nat := (settingOf? options k).bind digits?
    match faults, files with
    | message :: _, _ => c.refuse 1 message
    | _, _ :: _ :: t :: _ => c.misuse 1 (say "extra operand " ++ c.quote t)
    | [], _ =>
      let listsAll := on "D" || on "all-repeated"
      if on "c" && listsAll then
        c.misuse 1 (say "printing all duplicated lines and repeat counts is meaningless")
      else if on "group" && (on "c" || on "d" || listsAll || on "u") then
        c.misuse 1 (say "--group is mutually exclusive with -c/-d/-D/-u")
      else
        let sep := if on "z" then '\x00' else '\n'
        let isBlank (x : Char) : Bool := x = ' ' || x = '\t'
        let skipField (t : Text) : Text := (t.dropWhile isBlank).dropWhile fun x => !isBlank x
        let key (l : Text) : Text :=
          let l := (List.range ((number "f").getD 0)).foldl (fun l _ => skipField l) l
          let l := l.drop ((number "s").getD 0)
          let l := match number "w" with
            | some n => l.take n
            | none => l
          if on "i" then l.map Char.toLower else l
        let same (a b : Text) : Bool := key a = key b
        let show_ (data : Text) : Text :=
          let ls := (endedPieces sep data).map fun l => if l.getLast? = some sep then l.dropLast else l
          let rs := runsBy same ls
          let join (groups : List (List Text)) (before between after : Bool) : Text :=
            let texts := groups.map fun g => g.flatMap fun l => l ++ [sep]
            (if before && texts ≠ [] then [sep] else []) ++
              (texts.foldl (fun (out, first) t =>
                (out ++ (if between && !first then [sep] else []) ++ t, false)) ([], true)).1 ++
              (if after && texts ≠ [] then [sep] else [])
          if on "group" then
            let m := (settingOf? options "group").getD []
            join rs (m = say "prepend" || m = say "both") true (m = say "append" || m = say "both")
          else if listsAll then
            let m := (settingOf? options "all-repeated").getD []
            join (rs.filter fun r => 1 < r.length) (m = say "prepend")
              (m = say "prepend" || m = say "separate") false
          else
            rs.flatMap fun r =>
              if (on "d" && r.length = 1) || (on "u" && r.length ≠ 1) then []
              else (if on "c" then padLeft 7 (Text.ofNat r.length) ++ [' '] else []) ++
                r.headD [] ++ [sep]
        let e := forContents c (files.take 1)
          (fun t fault =>
            if fault = .isFolder then c.refuse 1 (say "error reading " ++ c.named t ++ say ": " ++ faultWords fault)
            else unreadable c t fault)
          fun c _ data => c.ok (show_ data)
        match files with
        | [_, target] =>
          if target = ['-'] || e.status ≠ 0 then e
          else
            match e.disk.writeFile (pathOf target) (toBytes e.out) with
            | .ok d => { Call.changed d with rest := e.rest }
            | .error fault => unreadable c target fault
        | _ => e

/-- Shows which lines of two sorted files are only in one of them, and which are in both. -/
def comm (c : Call) : Effect :=
  c.withOptions "123z" ["output-delimiter=", "zero-terminated,z", "check-order", "nocheck-order",
    "total"] 1 fun options files =>
    match files with
    | [a, b] =>
      match contentOf c a, contentOf c b with
      | .error fault, _ => unreadable c a fault
      | _, .error fault => unreadable c b fault
      | .ok x, .ok y =>
        let sep := if isSet options "z" then '\x00' else '\n'
        let lines (t : Text) : List Text := (endedPieces sep t).map fun l =>
          if l.getLast? = some sep then l.dropLast else l
        let delimiter := match settingOf? options "output-delimiter" with
          | some [] => ['\x00']
          | some t => t
          | none => ['\t']
        let shown (k : Nat) : Bool := !isSet options (toString k)
        let rows := merged ((lines x).length + (lines y).length) (lines x) (lines y)
        let count (k : Nat) : Nat := (rows.filter fun r => r.1 = k).length
        let out := rows.flatMap fun (k, l) =>
          if !shown k then []
          else (if 1 < k && shown 1 then delimiter else []) ++
            (if 2 < k && shown 2 then delimiter else []) ++ l ++ [sep]
        let total := if isSet options "total" then
            Text.ofNat (count 1) ++ delimiter ++ Text.ofNat (count 2) ++ delimiter ++
              Text.ofNat (count 3) ++ delimiter ++ say "total" ++ [sep]
          else []
        let disorder := if isSet options "nocheck-order" then []
          else ([(1, lines x), (2, lines y)].filter fun f =>
            (f.2.zip (f.2.drop 1)).any fun (l, m) => Text.comesBefore m l).map fun f =>
              (true, c.name ++ say (": file " ++ toString f.1 ++ " is not in sorted order\n"))
        let e : Effect := ⟨c.disk, disorder ++ (if disorder = [] then [] else
            [(true, c.name ++ say ": input is not in sorted order\n")]) ++ [(false, out ++ total)],
          if disorder = [] then 0 else 1, none, false⟩
        if a = ['-'] || b = ['-'] then e.usingInput else e
    | [] => c.missing "operand"
    | [a] => c.misuse 1 (say "missing operand after " ++ c.quote a)
    | _ :: _ :: t :: _ => c.misuse 1 (say "extra operand " ++ c.quote t)
where
  /-- The lines of two lists in order, each with the lists it is in. -/
  merged : Nat → List Text → List Text → List (Nat × Text)
    | 0, _, _ => []
    | _ + 1, [], ys => ys.map fun y => (2, y)
    | _ + 1, xs, [] => xs.map fun x => (1, x)
    | fuel + 1, x :: xs, y :: ys =>
      if x = y then (3, x) :: merged fuel xs ys
      else if Text.comesBefore x y then (1, x) :: merged fuel xs (y :: ys)
      else (2, y) :: merged fuel (x :: xs) ys

end Utility

end Shell
end IconAssets
