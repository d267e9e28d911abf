import IconAssets.Decimal.Places
import IconAssets.Shell.Expression
import IconAssets.Shell.Octet

/-!
# Written arguments

Two commands write their arguments: one as they are, the other in the places that a format has for
them.  Escapes stand for characters in both.

A format is filled in again and again, for as long as there are arguments that it takes.
-/

namespace IconAssets
namespace Shell

/-- The control character that a letter behind a backslash stands for. -/
def control? (c : Char) : Option Char :=
  match c with
  | 'a' => some '\x07'
  | 'b' => some '\x08'
  | 'f' => some '\x0c'
  | 'n' => some '\n'
  | 'r' => some '\r'
  | 't' => some '\t'
  | 'v' => some '\x0b'
  | '\\' => some '\\'
  | _ => none

/-- Whether a character is a digit in base eight. -/
def isOctalDigit (c : Char) : Bool := '0' ≤ c && c ≤ '7'

/-- The character that a backslash and the start of a text stand for, and what follows. -/
def escapeAt (t : Text) : Char × Text :=
  match t with
  | [] => ('\\', [])
  | c :: u =>
    match control? c with
    | some d => (d, u)
    | none =>
      let digits := (t.take 3).takeWhile isOctalDigit
      if c = 'e' then ('\x1b', u)
      else if digits = [] then ('\\', t)
      else (Char.ofNat ((digitsAt 8 0 digits).1 % 256), t.drop digits.length)

/-- A text with characters for its escapes, and whether an escape in it ends all output. -/
def unescape : Nat → Text → Text × Bool
  | 0, _ => ([], false)
  | _ + 1, [] => ([], false)
  | fuel + 1, c :: t =>
    let after (c : Char) (rest : Text) : Text × Bool :=
      let r := unescape fuel rest
      (c :: r.1, r.2)
    if c ≠ '\\' then after c t
    else
      match t with
      | 'c' :: _ => ([], true)
      | '0' :: d :: u =>
        let r := escapeAt (if isOctalDigit d then d :: u else t)
        after r.1 r.2
      | _ =>
        let r := escapeAt t
        after r.1 r.2

/-- Arguments with spaces in between and a newline, unless an option or an escape says otherwise. -/
def echo (escapes : Bool) (args : List Text) : Text :=
  let (line, args) : Bool × List Text :=
    match args with
    | ['-', 'n'] :: rest => (false, rest)
    | _ => (true, args)
  let t := Text.glue ' ' args
  let r := if escapes then unescape (t.length + 1) t else (t, false)
  if line && !r.2 then r.1 ++ ['\n'] else r.1

/-- How an argument is written. -/
structure Manner where
  flags : Text
  /-- The least number of characters; they stand to the left if it is negative. -/
  width : Int
  /-- The greatest number of characters of a text, and the least number of digits. -/
  precision : Option Nat

namespace Manner

/-- A number of equal characters. -/
def fill (c : Char) (n : Nat) : Text := List.replicate n c

/-- Whether spaces go to the right. -/
def toLeft (m : Manner) : Bool := '-' ∈ m.flags || m.width < 0

/-- Fills up with spaces. -/
def pad (m : Manner) (t : Text) : Text :=
  let gap := fill ' ' (m.width.natAbs - t.length)
  if m.toLeft then t ++ gap else gap ++ t

/-- Writes a text. -/
def text (m : Manner) (t : Text) : Text :=
  m.pad (match m.precision with
    | none => t
    | some n => t.take n)

/-- Writes the digits of a number behind a sign. -/
def number (m : Manner) (sign digits : Text) : Text :=
  match m.precision with
  | some n =>
    m.pad (sign ++
      if n = 0 && digits = ['0'] then [] else fill '0' (n - digits.length) ++ digits)
  | none =>
    if '0' ∈ m.flags && !m.toLeft then
      sign ++ fill '0' (m.width.natAbs - (sign.length + digits.length)) ++ digits
    else m.pad (sign ++ digits)

/-- Writes an integer in base ten. -/
def integer (m : Manner) (i : Int) : Text :=
  let sign := if i < 0 then ['-'] else if '+' ∈ m.flags then ['+'] else
    if ' ' ∈ m.flags then [' '] else []
  m.number sign (Text.ofNat i.natAbs)

/-- Writes a natural number in the base that a letter means. -/
def natural (m : Manner) (letter : Char) (n : Nat) : Text :=
  let marked := '#' ∈ m.flags && n ≠ 0
  if letter = 'o' then m.number [] ((if marked then ['0'] else []) ++ Nat.toDigits 8 n)
  else if letter = 'u' then m.number [] (Text.ofNat n)
  else
    let digits := Nat.toDigits 16 n
    m.number (if marked then ['0', letter] else [])
      (if letter = 'X' then digits.map Char.toUpper else digits)

/-- How a quantity is written for a letter, if the letter is for quantities. -/
def spelling? (letter : Char) : Option Spelling :=
  [('f', .fixed), ('e', .scientific), ('g', .general), ('a', .hexadecimal)].lookup letter.toLower

/-- Writes a quantity. -/
def real (m : Manner) (letter : Char) (s : Spelling) (q : Quantity) : Text :=
  let sign := if q.isNegative then ['-'] else if '+' ∈ m.flags then ['+'] else
    if ' ' ∈ m.flags then [' '] else []
  let t := q.magnitude s ('#' ∈ m.flags) m.precision
  let body := if letter.isUpper then t.map Char.toUpper else t
  let front := if s = .hexadecimal && q.isFinite then body.take 2 else []
  if '0' ∈ m.flags && !m.toLeft && q.isFinite then
    sign ++ front ++ fill '0' (m.width.natAbs - (sign.length + body.length)) ++
      body.drop front.length
  else m.pad (sign ++ body)

end Manner

/-- How the filling in of a format ends early. -/
inductive Halt where
  /-- An escape ends the output. -/
  | ended
  /-- The format is refused. -/
  | refused (message : Text)

/-- The state of a format that is filled in; its lists have their last items first. -/
structure Printing where
  written : List Text
  complaints : List Text
  arguments : List Text

/-- A step in the filling in of a format. -/
abbrev Fill := EStateM Halt Printing

namespace Fill

/-- Writes a text. -/
def write (t : Text) : Fill Unit := modify fun p => { p with written := t :: p.written }

/-- Complains. -/
def complain (argument : Text) (message : String) : Fill Unit :=
  modify fun p => { p with complaints := (argument ++ say (": " ++ message)) :: p.complaints }

/-- Takes the next argument. -/
def next? : Fill (Option Text) := do
  let p ← get
  set { p with arguments := p.arguments.tail }
  return p.arguments.head?

/-- Takes the next argument as an integer between two bounds; below zero the greatest one comes
before minus one if `wraps` says so. -/
def nextInteger (least greatest : Int) (wraps : Bool) : Fill Int := do
  match ← next? with
  | none | some [] => return 0
  | some (c :: t) =>
    if c = '\'' || c = '"' then return (t.head?.map fun d => (d.toNat : Int)).getD 0
    else
      match integerAt? (c :: t) with
      | none => do
        complain (c :: t) "expected numeric value"
        return 0
      | some (i, rest) => do
        let near := max least (min i greatest)
        if rest ≠ [] then complain (c :: t) "not completely converted"
        else if near ≠ i then complain (c :: t) "Numerical result out of range"
        return if !wraps then near else if near ≠ i then greatest else i % (greatest + 1)

/-- Takes the next argument as a signed integer. -/
def nextSigned : Fill Int := nextInteger (-maxInteger - 1) maxInteger false

/-- Takes the next argument as an integer without sign. -/
def nextUnsigned : Fill Nat := do
  let greatest : Int := Nat.pow 2 64 - 1
  return (← nextInteger (-greatest) greatest true).toNat

/-- Takes the next argument as a quantity. -/
def nextQuantity : Fill Quantity := do
  match ← next? with
  | none | some [] => return .zero
  | some (c :: t) =>
    if c = '\'' || c = '"' then return .ofNat ((t.head?.map Char.toNat).getD 0)
    else
      match Quantity.at? .double (c :: t) with
      | none => do
        complain (c :: t) "expected numeric value"
        return .zero
      | some (q, outOfRange, rest) => do
        if rest ≠ [] then complain (c :: t) "not completely converted"
        else if outOfRange then complain (c :: t) "Numerical result out of range"
        return q

/-- The greatest width. -/
def maxWidth : Nat := 2147483647

/-- The number at the start of a text, or the next argument for a star, and what follows.  An argument
is taken in 32 bits. -/
def measureAt (t : Text) : Fill (Int × Text) :=
  match t with
  | '*' :: u => return ((← nextSigned).bmod (2 * (maxWidth + 1)), u)
  | _ => do
    let n := (digitsAt 10 0 t).1
    if maxWidth ≤ n then throw (.refused (say "xvsnprintf failed"))
    return (n, t.dropWhile fun c => c.isDigit || c = '*')

/-- Writes an argument in a manner and for a letter. -/
def convert (m : Manner) (directive : Text) (letter : Char) : Fill Unit := do
  match letter with
  | 's' => write (m.text ((← next?).getD []))
  | 'c' => write ({ m with precision := none }.text [((← next?).bind List.head?).getD '\x00'])
  | 'b' => do
    let t := (← next?).getD []
    let r := unescape (t.length + 1) t
    write (m.text r.1)
    if r.2 then throw .ended
  | 'd' | 'i' => write (m.integer (← nextSigned))
  | 'o' | 'u' | 'x' | 'X' => write (m.natural letter (← nextUnsigned))
  | 'a' | 'e' | 'f' | 'g' | 'A' | 'E' | 'F' | 'G' =>
    match Manner.spelling? letter with
    | some s => write (m.real letter s (← nextQuantity))
    | none => return
  | _ => throw (.refused (directive ++ say ": invalid directive"))

/-- Writes the argument for what follows a percent sign, and gives the rest of the format. -/
def directive (t : Text) : Fill Text := do
  let flags := t.takeWhile fun c => c ∈ ['#', '-', '+', ' ', '0']
  let (width, rest) ← measureAt (t.drop flags.length)
  let (precision, rest) : Option Nat × Text ←
    match rest with
    | '.' :: u => do
      let (n, rest) ← measureAt u
      pure (if n < 0 then none else some n.toNat, rest)
    | _ => pure (none, rest)
  match rest with
  | [] => throw (.refused (say "missing format character"))
  | letter :: rest => do
    convert ⟨flags, width, precision⟩ ('%' :: t.take (t.length - rest.length)) letter
    return rest

/-- Fills in a format once. -/
def once : Nat → Text → Fill Unit
  | 0, _ => return
  | _ + 1, [] => return
  | fuel + 1, c :: t =>
    if c = '\\' then do
      let r := escapeAt t
      write [r.1]
      once fuel r.2
    else if c ≠ '%' then do
      write [c]
      once fuel t
    else if t.head? = some '%' then do
      write ['%']
      once fuel (t.drop 1)
    else do
      let rest ← directive t
      once fuel rest

/-- Fills in a format as long as it takes arguments and there are any. -/
def all : Nat → Text → Fill Unit
  | 0, _ => return
  | fuel + 1, format => do
    let before := (← get).arguments.length
    once (format.length + 1) format
    let after := (← get).arguments.length
    if after ≠ 0 && after < before then all fuel format

end Fill

/-- What is left of a format and its arguments. -/
structure Printed where
  out : Text
  complaints : List Text
  /-- Why the format is refused. -/
  refusal : Option Text

/-- Writes arguments in the places of a format. -/
def printf (format : Text) (args : List Text) : Printed :=
  let (p, refusal) : Printing × Option Text :=
    match (Fill.all (args.length + 1) format).run ⟨[], [], args⟩ with
    | .ok _ p => (p, none)
    | .error .ended p => (p, none)
    | .error (.refused message) p => (p, some message)
  ⟨p.written.reverse.flatten, p.complaints.reverse, refusal⟩

end Shell
end IconAssets
