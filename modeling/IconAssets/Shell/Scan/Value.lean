import IconAssets.Decimal.Arithmetic
import IconAssets.Shell.Format
import IconAssets.Shell.Utility.Order

/-!
# Values of scanning programs

A value is a number or a text.  What comes from outside is a text, and is a number too if it is
written like one; a variable that has never been set is both the empty text and zero.

A number that is no integer is written in a format.  A format may also be filled in with values.

Main statement:

* `toText_ofInt` : an integer is written with its digits, whatever the format.
-/

namespace IconAssets
namespace Shell
namespace Scan

/-- A value. -/
inductive Value where
  | unset
  | number (x : Quantity)
  | text (t : Text)
  /-- A text from outside. -/
  | given (t : Text)

/-- Why a format cannot be filled in. -/
inductive LayoutFault where
  | tooFewValues
  /-- The conversion of a number is of no known kind. -/
  | improper (number : Nat)

/-- Whether a character is a blank inside a line. -/
def isGap (c : Char) : Bool := c = ' ' || (c ≠ '\n' && '\t' ≤ c && c ≤ '\r')

/-- The number that a text from outside is. -/
def numeral? (t : Text) : Option Quantity :=
  let t := ((t.dropWhile isGap).reverse.dropWhile isGap).reverse
  let starts := t.head?.any fun c => c.isDigit || c = '+' || c = '-' || c = '.'
  let ends := t.getLast?.any fun c => c.isDigit || c = '.'
  if !starts || !ends then none
  else
    match Quantity.at? .double t with
    | some (q, _, []) => some q
    | _ => none

/-- The number at the start of a text, or zero. -/
def leadingNumber (t : Text) : Quantity :=
  let t := t.dropWhile fun c => c = ' ' || ('\t' ≤ c && c ≤ '\r')
  if t.head?.all fun c => !(c.isDigit || c ∈ ['+', '-', '.', 'i', 'I', 'n', 'N']) then .zero
  else
    match Quantity.at? .double t with
    | some (q, _, _) => q
    | none => .zero

/-- The bound of the integers without sign. -/
def wordBound : Int := Nat.pow 2 64

/-- The bound of the integers with a sign. -/
def halfBound : Int := Nat.pow 2 63

/-- The digits of a number that is an integer in the range of the machine. -/
def integerText? (x : Quantity) : Option Text :=
  x.toInt?.bind fun i =>
    if -halfBound ≤ i && i ≤ wordBound then
      some ((if i < 0 then ['-'] else []) ++ Text.ofNat (min i (wordBound - 1)).natAbs)
    else none

/-- The signed integer that is written for a number. -/
def signedInteger (x : Quantity) : Int :=
  match x with
  | .undefined _ => -halfBound
  | .infinite n => if n then 1 - halfBound else halfBound - 1
  | x =>
    let i := x.clamped (-halfBound - 1) (wordBound - 1)
    if i < -halfBound then 1 - halfBound else i

/-- The integer without sign that is written for a number. -/
def unsignedInteger (x : Quantity) : Nat :=
  match x with
  | .undefined _ => halfBound.toNat
  | x =>
    let i := x.clamped (-wordBound) (wordBound - 1)
    if i = -wordBound then 1
    else if i < -halfBound then halfBound.toNat
    else (i % wordBound).toNat

/-- The format of numbers unless there is another one. -/
def usualFormat : Text := "%.6g".toList

/-- The letters of the conversions of integers. -/
def integerLetters : List Char := ['d', 'i', 'o', 'u', 'x', 'X']

/-- The letters of the conversions of other numbers. -/
def realLetters : List Char := ['e', 'f', 'g', 'E', 'G']

/-- Writes a number in a manner and for a letter. -/
def numberIn (m : Manner) (letter : Char) (x : Quantity) : Text :=
  if letter = 'd' || letter = 'i' then m.integer (signedInteger x)
  else if letter ∈ integerLetters then m.natural letter (unsignedInteger x)
  else
    match Manner.spelling? letter with
    | some s => m.real letter s x
    | none => []

/-- What stands between a percent sign and the letter of a conversion: the manner, with stars where
values say how wide and how precise, and what follows. -/
structure Directive where
  flags : Text
  /-- The width; none for a star. -/
  width : Option Nat
  /-- The precision, if there is one; none inside for a star. -/
  precision : Option (Option Nat)
  /-- Whether the precision is only a point. -/
  isBare : Bool
  /-- Whether a short integer is asked for, and how long a long one. -/
  isShort : Bool
  longs : Nat
  rest : Text

/-- The directive behind a percent sign. -/
def Directive.ofText (t : Text) : Directive :=
  let flags := t.takeWhile fun c => c ∈ ['-', '+', ' ', '#', '0']
  let (width, t) := measure (t.drop flags.length)
  let digitless := t
  let (precision, t) : Option (Option Nat) × Text :=
    match t with
    | '.' :: u => (some (measure u).1, (measure u).2)
    | _ => (none, t)
  let isBare := match digitless with
    | '.' :: c :: _ => !(c.isDigit || c = '*')
    | _ => false
  let longs := (t.take 2).takeWhile (· = 'l')
  let t := t.drop longs.length
  let isShort := longs = [] && t.head? = some 'h'
  ⟨flags, width, precision, isBare, isShort, longs.length, if isShort then t.drop 1 else t⟩
where
  /-- The number at the start of a text, none for a star, and what follows. -/
  measure (t : Text) : Option Nat × Text :=
    match t with
    | '*' :: u => (none, u)
    | _ =>
      let digits := t.takeWhile Char.isDigit
      (some ((digits? digits).getD 0), t.drop digits.length)

/-- The text of a number in a format with one place. -/
def numberText (format : Text) (x : Quantity) : Text :=
  match integerText? x with
  | some t => t
  | none =>
    let front := format.takeWhile (· ≠ '%')
    let d := Directive.ofText (format.drop (front.length + 1))
    match d.rest with
    | letter :: behind =>
      front ++ numberIn ⟨d.flags, d.width.getD 0, d.precision.join⟩ letter x ++ behind
    | [] => front

namespace Value

/-- The text of a value; numbers that are no integers are written in a format. -/
def toText (format : Text) : Value → Text
  | .unset => []
  | .number x => numberText format x
  | .text t | .given t => t

/-- The number of a value. -/
def toNumber : Value → Quantity
  | .unset => .zero
  | .number x => x
  | .text t | .given t => leadingNumber t

/-- The number of a value that is compared as a number. -/
def numeric? : Value → Option Quantity
  | .unset => some .zero
  | .number x => some x
  | .text _ => none
  | .given t => numeral? t

/-- Whether a value counts as true. -/
def isTrue : Value → Bool
  | .unset => false
  | .number x => !x.isZero
  | .text t => t ≠ []
  | .given t =>
    match numeral? t with
    | some x => !x.isZero
    | none => t ≠ []

/-- A natural number. -/
def ofNat (n : Nat) : Value := .number (.ofNat n)

/-- An integer. -/
def ofInt (i : Int) : Value := .number (.ofInt i)

/-- One for true and zero for false. -/
def ofBool (b : Bool) : Value := ofNat (if b then 1 else 0)

/-- The order of two values: that of numbers if both may be numbers, else that of texts. -/
def order (format : Text) (a b : Value) : Ordering :=
  match a.numeric?, b.numeric? with
  | some x, some y => if x.isLess y then .lt else if y.isLess x then .gt else .eq
  | _, _ => Order.ofTexts (a.toText format) (b.toText format)

theorem toText_ofInt (format : Text) {i : Int} (hl : -halfBound ≤ i) (hu : i < wordBound) :
    (ofInt i).toText format = (if i < 0 then ['-'] else []) ++ Text.ofNat i.natAbs := by
  have h1 : min i (wordBound - 1) = i := by omega
  have h2 : i ≤ wordBound := by omega
  simp [ofInt, toText, numberText, integerText?, Quantity.toInt?_ofInt, hl, h1, h2]

end Value

/-- The character that is written for a value. -/
def characterOf (v : Value) : Char :=
  let ofNumber (x : Quantity) : Char :=
    Char.ofNat ((x.clamped (-halfBound) (halfBound - 1)) % 256).toNat
  match v with
  | .unset => '\x00'
  | .number x => ofNumber x
  | .text t => t.headD '\x00'
  | .given t =>
    match numeral? t with
    | some x => ofNumber x
    | none => t.headD '\x00'

/-- The value behind a directive in its manner and for a letter; none for a letter of no kind. -/
def converted? (numberFormat : Text) (d : Directive) (m : Manner) (letter : Char) (v : Value) :
    Option Text :=
  let isPlain := !d.isShort && d.longs = 0
  if letter = 's' then
    let m := if d.isBare then { m with precision := none } else m
    if isPlain then some (m.text (v.toText numberFormat)) else none
  else if letter = 'c' then
    if isPlain then some ({ m with precision := none }.text [characterOf v]) else none
  else if letter ∈ integerLetters || (letter ∈ realLetters && isPlain) then
    some (numberIn m letter v.toNumber)
  else none

/-- Fills in a format; each call takes a conversion, whose number is given.  The answer is what comes
before the first fault, and the fault. -/
def fillFrom (numberFormat : Text) : Nat → Nat → Text → List Value → Text → Text × Option LayoutFault
  | 0, _, _, _, done => (done, none)
  | fuel + 1, number, format, values, done =>
    let front := format.takeWhile (· ≠ '%')
    let done := done ++ front
    match format.drop front.length with
    | [] => (done, none)
    | _ :: '%' :: rest => fillFrom numberFormat fuel number rest values (done ++ ['%'])
    | _ :: t =>
      let d := Directive.ofText t
      let star (asked : Bool) (values : List Value) : Option Int × List Value :=
        if asked then
          (some ((values.headD .unset).toNumber.clamped (-halfBound) (halfBound - 1)), values.tail)
        else (none, values)
      let (width, values) := star d.width.isNone values
      let (precision, values) := star (d.precision = some none) values
      match values with
      | [] => (done, some .tooFewValues)
      | v :: values =>
        let m : Manner := ⟨d.flags, width.getD (d.width.getD 0),
          match precision with
          | some p => if p < 0 then none else some p.toNat
          | none => d.precision.join⟩
        match d.rest with
        | [] => (done, some (.improper number))
        | letter :: rest =>
          match converted? numberFormat d m letter v with
          | some t => fillFrom numberFormat fuel (number + 1) rest values (done ++ t)
          | none => (done, some (.improper number))

/-- Fills in a format with values. -/
def fill (numberFormat format : Text) (values : List Value) : Text × Option LayoutFault :=
  fillFrom numberFormat (format.length + 1) 1 format values []

end Scan
end Shell
end IconAssets
