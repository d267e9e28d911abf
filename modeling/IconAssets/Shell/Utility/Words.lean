import IconAssets.Shell.Condition
import IconAssets.Shell.Utility.Names

/-!
# Utilities that work on their arguments

They write their arguments, rows of numbers, or facts about the machine.
-/

namespace IconAssets
namespace Shell
namespace Utility

/-- The character that digits in base sixteen stand for, and what follows; at most so many. -/
def hexadecimalAt? (most : Nat) (t : Text) : Option (Nat × Text) :=
  let digits := (t.take most).takeWhile fun c => (digit? c).isSome
  if digits = [] then none else some ((digitsAt 16 0 digits).1, t.drop digits.length)

/-- The octets that a backslash and the start of a text stand for, and what follows; none if they
end all output. -/
def longEscapeAt (zeroInFront : Bool) (t : Text) : Option (Text × Text) :=
  match t with
  | 'c' :: _ => none
  | 'e' :: u => some (['\x1b'], u)
  | '"' :: u => some (['"'], u)
  | 'x' :: u =>
    match hexadecimalAt? 2 u with
    | some (n, rest) => some ([Char.ofNat n], rest)
    | none => some (['\\', 'x'], u)
  | '0' :: u =>
    if zeroInFront then
      let digits := (u.take 3).takeWhile isOctalDigit
      some ([Char.ofNat ((digitsAt 8 0 digits).1 % 256)], u.drop digits.length)
    else
      let r := escapeAt t
      some ([r.1], r.2)
  | 'u' :: u =>
    match hexadecimalAt? 4 u with
    | some (n, rest) => some (Shell.ofText [Char.ofNat n], rest)
    | none => some (['\\', 'u'], u)
  | 'U' :: u =>
    match hexadecimalAt? 8 u with
    | some (n, rest) => some (Shell.ofText [Char.ofNat n], rest)
    | none => some (['\\', 'U'], u)
  | _ =>
    let r := escapeAt t
    some ([r.1], r.2)

/-- A text with octets for its escapes, and whether an escape in it ends all output. -/
def longUnescape (zeroInFront : Bool) : Nat → Text → Text × Bool
  | 0, _ => ([], false)
  | _ + 1, [] => ([], false)
  | fuel + 1, '\\' :: t =>
    match longEscapeAt zeroInFront t with
    | none => ([], true)
    | some (octets, rest) =>
      let r := longUnescape zeroInFront fuel rest
      (octets ++ r.1, r.2)
  | fuel + 1, c :: t =>
    let r := longUnescape zeroInFront fuel t
    (c :: r.1, r.2)

/-- Writes its arguments. -/
def echo (c : Call) : Effect :=
  let isOption (a : Text) : Bool :=
    a.head? = some '-' && a.length ≠ 1 && (a.drop 1).all fun x => x ∈ ['n', 'e', 'E']
  let options := (c.arguments.takeWhile isOption).flatMap (·.drop 1)
  let t := Text.glue ' ' (c.arguments.dropWhile isOption)
  let escapes := (options.reverse.find? fun x => x = 'e' || x = 'E') = some 'e'
  let r := if escapes then
      longUnescape true (t.length + 1) (Text.replaceAll (say "\\\"") (say "\\\\\"") t)
    else (t, false)
  c.ok (if 'n' ∈ options || r.2 then r.1 else r.1 ++ ['\n'])

/-- The state of a format that is filled in. -/
structure Filling where
  written : List (Bool × Text)
  arguments : List Text
  status : Nat
  /-- Whether nothing more is written. -/
  ended : Bool

/-- Complains about a format or an argument of it. -/
def Filling.complain (f : Filling) (c : Call) (message : Text) : Filling :=
  let line := (true, c.name ++ say ": " ++ message ++ ['\n'])
  { f with
    written := f.written.filter (·.1) ++ line :: f.written.filter fun w => !w.1
    status := 1 }

/-- Complains about an argument that is no number, or not in full. -/
def Filling.checked (f : Filling) (c : Call) (t : Text) (found outOfRange : Bool) (rest : Text) :
    Filling :=
  if !found then f.complain c (c.quote t ++ say ": expected a numeric value")
  else if outOfRange then f.complain c (c.quote t ++ say ": Numerical result out of range")
  else if rest ≠ [] then f.complain c (c.quote t ++ say ": value not completely converted")
  else f

/-- The code of the character behind a quotation mark that is taken for a number. -/
def markedCode? (c : Call) (t : Text) : Option Nat :=
  match t with
  | '\'' :: u | '"' :: u =>
    some ((((spelled c.speaksUtf8 u).head?.bind (·.char)).map Char.toNat).getD
      ((u.head?.map Char.toNat).getD 0))
  | _ => none

/-- Takes the next argument as an integer between two others, of which nothing is said if there is no
argument. -/
def Filling.nextInteger (f : Filling) (c : Call) (least greatest : Int) : Int × Bool × Filling :=
  let argument := f.arguments.head?
  let t := argument.getD []
  let f := { f with arguments := f.arguments.drop 1 }
  let (i, found, rest) : Int × Bool × Text :=
    match markedCode? c t with
    | some n => (n, true, [])
    | none =>
      if t = [] then (0, true, [])
      else
        match integerAt? t with
        | some (i, rest) => (i, true, rest)
        | none => (0, false, t)
  let near := max least (min i greatest)
  (near, near ≠ i, f.checked c t found (near ≠ i) rest)

/-- Fills in a directive of a format: its manner, the letter and the text of it. -/
def fillDirective (c : Call) (m : Manner) (letter : Char) (directive : Text) (f : Filling) :
    Filling :=
  let t := f.arguments.headD []
  let g := { f with arguments := f.arguments.drop 1 }
  let write (t : Text) (f : Filling) : Filling := { f with written := f.written ++ [(false, t)] }
  match letter with
  | 's' => write (m.text t) g
  | 'c' => write ({ m with precision := none }.text (t.take 1)) g
  | 'q' => write (m.pad (if t = [] then ['\'', '\''] else quoteIfOdd c.speaksUtf8 t)) g
  | 'b' =>
    let r := longUnescape true (t.length + 1) t
    { write (m.text r.1) g with ended := r.2 }
  | 'd' | 'i' =>
    let (i, _, f) := f.nextInteger c (-maxInteger - 1) maxInteger
    write (m.integer i) f
  | 'o' | 'u' | 'x' | 'X' =>
    let greatest : Int := Nat.pow 2 64 - 1
    let (i, beyond, f) := f.nextInteger c (-greatest) greatest
    write (m.natural letter (if beyond then greatest else i % (greatest + 1)).toNat) f
  | _ =>
    match Manner.spelling? letter with
    | some s =>
      let (q, found, outOfRange, rest) : Quantity × Bool × Bool × Text :=
        match markedCode? c t with
        | some n => (.ofNat n, true, false, [])
        | none =>
          if t = [] then (.zero, true, false, [])
          else
            match Quantity.at? .extended t with
            | some (q, outOfRange, rest) => (q, true, outOfRange, rest)
            | none => (.zero, false, false, t)
      (write (m.real letter s q) g).checked c t found outOfRange rest
    | none => { g.complain c (directive ++ say ": invalid conversion specification") with ended := true }

/-- The number in a directive, or the next argument for a star.  Numbers of 32 bits are taken, and lesser
ones if `anyLess` says so. -/
def fillMeasure (c : Call) (what : String) (anyLess : Bool) (t : Text) (f : Filling) :
    Int × Text × Filling :=
  match t with
  | '*' :: u =>
    let argument := f.arguments.headD []
    let (i, _, f) := f.nextInteger c (-maxInteger - 1) maxInteger
    if Fill.maxWidth < i || (i < -Fill.maxWidth - 1 && !anyLess) then
      (0, u, { f.complain c (say ("invalid " ++ what ++ ": ") ++ c.quote argument) with ended := true })
    else (i, u, f)
  | _ => ((digitsAt 10 0 t).1, t.dropWhile Char.isDigit, f)

/-- Fills in a format once. -/
def fillOnce (c : Call) : Nat → Text → Filling → Filling
  | 0, _, f => f
  | _ + 1, [], f => f
  | fuel + 1, '\\' :: t, f =>
    match longEscapeAt false t with
    | none => { f with ended := true }
    | some (octets, rest) => fillOnce c fuel rest { f with written := f.written ++ [(false, octets)] }
  | fuel + 1, '%' :: '%' :: t, f =>
    fillOnce c fuel t { f with written := f.written ++ [(false, ['%'])] }
  | fuel + 1, '%' :: t, f =>
    let flags := t.takeWhile fun x => x ∈ ['#', '-', '+', ' ', '0', '\'', 'I']
    let (width, rest, f) := fillMeasure c "field width" false (t.drop flags.length) f
    let (precision, rest, f) : Option Nat × Text × Filling :=
      match f.ended, rest with
      | false, '.' :: u =>
        let (n, rest, f) := fillMeasure c "precision" true u f
        (if n < 0 then none else some n.toNat, rest, f)
      | _, _ => (none, rest, f)
    let beyond : Bool := Fill.maxWidth ≤ width.natAbs || Fill.maxWidth ≤ precision.getD 0
    let rest := rest.dropWhile fun x => x ∈ ['h', 'l', 'L', 'j', 't', 'z']
    let letter := rest.headD '\x00'
    let directive := '%' :: t.take (t.length - rest.length + 1)
    let f :=
      if f.ended then f
      else if beyond then { f.complain c (say "write error") with arguments := f.arguments.drop 1 }
      else fillDirective c ⟨flags, width, precision⟩ letter directive f
    if f.ended then f else fillOnce c fuel (rest.drop 1) f
  | fuel + 1, x :: t, f => fillOnce c fuel t { f with written := f.written ++ [(false, [x])] }

/-- Fills in a format as long as it takes arguments and there are any. -/
def fillAll (c : Call) (format : Text) : Nat → Filling → Filling
  | 0, f => f
  | fuel + 1, f =>
    let g := fillOnce c (format.length + 1) format f
    if g.ended || g.arguments = [] then g
    else if g.arguments.length < f.arguments.length then fillAll c format fuel g
    else
      { g with written := g.written ++ [(true, c.name ++ say ": warning: ignoring excess arguments, starting with " ++
          c.quote (g.arguments.headD []) ++ ['\n'])] }

/-- Writes its arguments in the places of a format. -/
def printf (c : Call) : Effect :=
  let args := if c.arguments.head? = some ['-', '-'] then c.arguments.drop 1 else c.arguments
  match args with
  | [] => c.missing "operand"
  | format :: args =>
    let f := fillAll c format (args.length + 1) ⟨[], args, 0, false⟩
    ⟨c.disk, f.written, f.status, none, false⟩

/-- A number of a row: its value in units of a power of ten, and the number of decimals. -/
structure RowNumber where
  value : Int
  decimals : Nat
  /-- Whether it is beyond all numbers. -/
  infinite : Bool
  /-- The number of characters in which it is written. -/
  width : Nat

/-- Reads a number of a row. -/
def rowNumber? (t : Text) : Option RowNumber :=
  match Quantity.at? .extended t with
  | some (.finite negative num den, _, []) =>
    let (minus, body) := signAt (skipGaps t)
    let lower := body.map Char.toLower
    if "0x".toList.isPrefixOf lower then
      some ⟨signed minus (num / den), 0, false, body.length⟩
    else
      let mantissa := body.takeWhile fun x => x.isDigit || x = '.'
      let behind := ((mantissa.dropWhile (· ≠ '.')).drop 1)
      let exponent : Int := (Quantity.exponentAt 'e' 'E' (body.drop mantissa.length)).1
      let digits := (digitsAt 10 0 (mantissa.filter (· ≠ '.'))).1
      let decimals : Int := behind.length - exponent
      let n := if decimals < 0 then digits * Nat.pow 10 (-decimals).toNat else digits
      let whole := Text.ofNat (num / den)
      let width := (if negative then 1 else 0) +
        (if exponent = 0 then body.length - (if behind = [] && mantissa.getLast? = some '.' then 1 else 0)
        else whole.length + if 0 < decimals then decimals.toNat + 1 else 0)
      some ⟨signed minus n, decimals.toNat, false, width⟩
  | some (.infinite negative, _, []) => some ⟨if negative then -1 else 1, 0, true, 3⟩
  | _ => none

/-- A format for the numbers of a row: what stands around the number, and its manner. -/
structure RowFormat where
  front : Text
  manner : Manner
  letter : Char
  behind : Text

/-- Reads a format for the numbers of a row. -/
def rowFormat (c : Call) (t : Text) : Except Text RowFormat :=
  let about (message : String) : Text := say "format " ++ c.quote t ++ say (" " ++ message)
  let rec plain : Nat → Text → Text × Text
    | 0, t => ([], t)
    | _ + 1, [] => ([], [])
    | fuel + 1, '%' :: '%' :: t =>
      let r := plain fuel t
      ('%' :: r.1, r.2)
    | _ + 1, '%' :: t => ([], '%' :: t)
    | fuel + 1, x :: t =>
      let r := plain fuel t
      (x :: r.1, r.2)
  let (front, rest) := plain (t.length + 1) t
  match rest with
  | [] => .error (about "has no % directive")
  | _ :: u =>
    let flags := u.takeWhile fun x => x ∈ ['-', '+', '#', '0', ' ', '\'']
    let u := u.drop flags.length
    let width := (digitsAt 10 0 u).1
    let u := u.dropWhile Char.isDigit
    let (precision, u) : Option Nat × Text := match u with
      | '.' :: v => (some (digitsAt 10 0 v).1, v.dropWhile Char.isDigit)
      | _ => (none, u)
    let u := if u.head? = some 'L' then u.drop 1 else u
    match u with
    | [] => .error (about "ends in %")
    | x :: v =>
      if (Manner.spelling? x).isNone then .error (about ("has unknown %" ++ String.ofList [x] ++ " directive"))
      else
        let (behind, left) := plain (v.length + 1) v
        if left ≠ [] then .error (about "has too many % directives")
        else .ok ⟨front, ⟨flags, width, precision⟩, x, behind⟩

/-- The number of numbers that are enough for any reader of an endless row. -/
def plenty : Nat := 20000

/-- The numbers of a row: each is a whole number of units. -/
def rowOf (first step last : Int) (endless : Bool) : List Int :=
  if endless then (List.range plenty).map fun (i : Nat) => first + step * i
  else if step = 0 then []
  else (List.range ((last - first).fdiv step + 1).toNat).map fun (i : Nat) => first + step * i

/-- Writes the numbers of a row. -/
def seq (c : Call) : Effect :=
  let isNumber (a : Text) : Bool :=
    match a with
    | '-' :: x :: _ => x.isDigit || x = '.'
    | _ => false
  let front := c.arguments.takeWhile fun a => !isNumber a
  let args := if front.length < c.arguments.length then
      front ++ ['-', '-'] :: c.arguments.drop front.length
    else c.arguments
  let args := if ['-', '-'] ∈ front then c.arguments else args
  (c.withArguments args).withOptions "+f:s:w" ["equal-width,w", "format=,f", "separator=,s"] 1
    fun options words =>
    let invalid := words.find? fun t => (rowNumber? t).isNone
    match words, invalid with
    | [], _ => c.missing "operand"
    | _ :: _ :: _ :: extra :: _, _ => c.misuse 1 (say "extra operand " ++ c.quote extra)
    | _, some t =>
      match Quantity.at? .extended t with
      | some (.undefined _, _, []) =>
        c.misuse 1 (say "invalid " ++ c.quote (say "not-a-number") ++ say " argument: " ++ c.quote t)
      | _ => c.misuse 1 (say "invalid floating point argument: " ++ c.quote t)
    | _, none =>
      let ns := words.filterMap rowNumber?
      let one : RowNumber := ⟨1, 0, false, 1⟩
      let (first, step, last) := match ns with
        | [l] => (one, one, l)
        | [f, l] => (f, one, l)
        | f :: s :: l :: _ => (f, s, l)
        | [] => (one, one, one)
      let format := (settingOf? options "f").map (rowFormat c)
      match format with
      | some (.error message) => c.refuse 1 message
      | _ =>
        if step.value = 0 then
          c.misuse 1 (say "invalid Zero increment value: " ++ c.quote (words.getD 1 []))
        else if format.isSome && isSet options "w" then
          c.misuse 1 (say "format string may not be specified when printing equal width strings")
        else
          let unit := max first.decimals (max step.decimals last.decimals)
          let scaled (n : RowNumber) : Int := n.value * Nat.pow 10 (unit - n.decimals)
          let decimals := max first.decimals step.decimals
          let row := if last.infinite && (last.value < 0) ≠ (step.value < 0) then []
            else rowOf (scaled first) (scaled step) (scaled last) last.infinite
          let plain (i : Int) : Text :=
            (if i < 0 then ['-'] else []) ++
              Quantity.fixedDigits false decimals i.natAbs (Nat.pow 10 unit)
          let widened (n : RowNumber) : Nat :=
            n.width + (if n.decimals < decimals then decimals - n.decimals + if n.decimals = 0 then 1 else 0
              else 0) - (if decimals < n.decimals then n.decimals - decimals +
                if decimals = 0 then 1 else 0 else 0)
          let width := if isSet options "w" then max (widened first) (widened last) else 0
          let shown (i : Int) : Text :=
            match format with
            | some (.ok f) =>
              match Manner.spelling? f.letter with
              | some s => f.front ++ f.manner.real f.letter s
                  (.finite (i < 0) i.natAbs (Nat.pow 10 unit)) ++ f.behind
              | none => []
            | _ =>
              let t := plain i
              if t.length < width then
                if i < 0 then '-' :: fill '0' (width - t.length) ++ t.drop 1
                else fill '0' (width - t.length) ++ t
              else t
          let separator := (settingOf? options "s").getD ['\n']
          c.ok (if row = [] then []
            else separator.intercalate (row.map shown) ++ ['\n'])

/-- What is known of the machine, by the letters that ask for it. -/
def machineFacts : List (Char × String) :=
  [('s', "Linux"), ('n', "localhost"), ('r', "6.1.0"), ('v', "#1 SMP"), ('m', "x86_64"),
    ('p', "x86_64"), ('i', "x86_64"), ('o', "GNU/Linux")]

/-- Tells about the machine. -/
def uname (c : Call) : Effect :=
  c.withOptions "asnrvmpio" ["all,a", "kernel-name,s", "nodename,n", "kernel-release,r",
    "kernel-version,v", "machine,m", "processor,p", "hardware-platform,i", "operating-system,o",
    "sysname,s", "release,r"] 1 fun options args =>
    match args with
    | t :: _ => c.misuse 1 (say "extra operand " ++ c.quote t)
    | [] =>
      let facts := machineFacts.filter fun f =>
        isSet options "a" || isSet options (Options.key f.1) || (options = [] && f.1 = 's')
      c.ok (Text.glue ' ' (facts.map fun f => say f.2) ++ ['\n'])

/-- Tells who runs it. -/
def id (c : Call) : Effect :=
  c.withOptions "agGnruzZ" ["group,g", "groups,G", "name,n", "real,r", "user,u", "zero,z"] 1
    fun options args =>
    match args.find? fun a => a ≠ say "root" && a ≠ ['0'] with
    | some a => c.refuse 1 (c.quote a ++ say ": no such user")
    | none =>
      if ["u", "g", "G"].any (isSet options) then
        c.ok (if isSet options "n" then say "root\n" else say "0\n")
      else if isSet options "n" then
        c.refuse 1 (say "cannot print only names or real IDs in default format")
      else c.ok (say "uid=0(root) gid=0(root) groups=0(root)\n")

/-- Writes one text. -/
def constant (t : String) (c : Call) : Effect :=
  c.withOptions "" [] 1 fun _ args =>
    match args with
    | a :: _ => c.misuse 1 (say "extra operand " ++ c.quote a)
    | [] => c.ok (say t)

/-- Does nothing and ends with a status. -/
def ending (n : Nat) (c : Call) : Effect := c.finish n

/-- Does nothing, and knows no options. -/
def idle (misused : Nat) (c : Call) : Effect := c.withOptions "" [] misused fun _ _ => c.finish 0

/-- The variables of the environment, or the values of some of them. -/
def printenv (c : Call) : Effect :=
  c.withOptions "+0" ["null,0"] 2 fun options names =>
    let ending := if isSet options "0" then '\x00' else '\n'
    if names = [] then c.ok (c.vars.flatMap fun v => v.1 ++ '=' :: v.2 ++ [ending])
    else
      let found := names.map fun n => c.vars.lookup n
      { c.ok (found.filterMap (·.map (· ++ [ending]))).flatten with
        status := if found.all Option.isSome then 0 else 1 }

/-- The divisors of a number that are primes, from a candidate on. -/
def primeFactors : Nat → Nat → Nat → List Nat
  | 0, _, n => [n]
  | fuel + 1, d, n =>
    if n < d * d then (if 1 < n then [n] else [])
    else if n % d = 0 then d :: primeFactors fuel d (n / d)
    else primeFactors fuel (d + 1) n

/-- Writes the prime factors of numbers. -/
def factor (c : Call) : Effect :=
  let words := if c.arguments = [] then
      (Text.pieces ' ' (c.input.map fun x => if x = '\n' || x = '\t' then ' ' else x)).filter (· ≠ [])
    else c.arguments
  let e := forEach c words fun c t =>
    match digits? (if t.head? = some '+' then t.drop 1 else t) with
    | some n => c.ok (Text.ofNat n ++ ':' :: (primeFactors 200000 2 n).flatMap fun p =>
        ' ' :: Text.ofNat p) |>.andThen fun _ => c.ok ['\n']
    | none => c.refuse 1 (c.quote t ++ say " is not a valid positive integer")
  if c.arguments = [] then e.usingInput else e

/-- Writes where programs are found. -/
def which (c : Call) : Effect :=
  c.withOptions "+as" [] 2 fun options names =>
    let path := (c.vars.lookup searchVariable).getD Program.standardPath
    let found := names.map fun n =>
      let paths := if '/' ∈ n then [n]
        else (Text.pieces ':' path).map fun f => inside (if f = [] then ['.'] else f) n
      let there := paths.filter fun p =>
        (c.disk.find? (Pattern.pathOf p)).any fun n => n.isFile && n.isRunnable
      if isSet options "a" then there else there.take 1
    { c.ok (found.flatMap fun ps => if isSet options "s" then [] else asLines ps) with
      status := if found.all (· ≠ []) then 0 else 1 }

end Utility
end Shell
end IconAssets
