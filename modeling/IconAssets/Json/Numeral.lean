import IconAssets.Json.Literal

/-!
# Reading numbers

A number without fraction and exponent is an integer as long as 64 bits hold it, and every other
number is a double.

The digits of a number are collected in 64 bits.  From the first digit of the integer part that no
longer fits on, digits only raise the exponent; from the first such digit of the fraction on, they
have no effect.
-/

namespace IconAssets
namespace Json

/-- The value of a decimal digit. -/
def digitValue (c : Char) : Nat := c.toNat - '0'.toNat

/-- Adds digits to a significand as long as it stays below `2 ^ 64`; the text is what is left. -/
def addDigits : Nat → Text → Nat × Text
  | n, [] => (n, [])
  | n, c :: t =>
    if c.isDigit && n * 10 + digitValue c < Nat.pow 2 64 then addDigits (n * 10 + digitValue c) t
    else (n, c :: t)

/-- The text behind the digits at its start. -/
def skipDigits (t : Text) : Text := t.dropWhile Char.isDigit

/-- Whether a text starts with a digit. -/
def startsWithDigit : Text → Bool
  | [] => false
  | c :: _ => c.isDigit

/-- Whether a text starts with an exponent. -/
def startsWithExponent : Text → Bool
  | [] => false
  | c :: _ => c = 'e' || c = 'E'

/-- The largest exponent that may be written. -/
def maxWrittenExponent : Nat := Nat.pow 2 31 - 1

/-- Keeps an exponent within 32 bits. -/
def saturate (e : Int) : Int := max (-Nat.pow 2 31) (min e (Nat.pow 2 31 - 1))

/-- The double of a significand and a decimal exponent; `rest` is the text behind the number. -/
def toFloat (negative : Bool) (significand : Nat) (exponent : Int) : Reader Number := fun rest =>
  match Binary64.ofDecimal? significand exponent with
  | some f => .ok (.float (f.withSign negative), rest)
  | none => .error (stopAt .numberOutOfRange rest)

/-- Adds digits to an exponent, up to the first digit that makes it too large. -/
def addExponentDigits : Nat → Text → Except Text (Nat × Text)
  | e, [] => .ok (e, [])
  | e, c :: t =>
    if c.isDigit then
      if e * 10 + digitValue c ≤ maxWrittenExponent then
        addExponentDigits (e * 10 + digitValue c) t
      else .error t
    else .ok (e, c :: t)

/-- The digits of an exponent with the given sign, to be added to `shift`. -/
def readExponentDigits (negative : Bool) (significand : Nat) (shift : Int) (negativeExponent : Bool) :
    Reader Number
  | [] => .error (stopAt .endInValue [])
  | c :: t =>
    if c.isDigit then
      match addExponentDigits (digitValue c) t with
      | .ok (e, rest) =>
        toFloat negative significand (saturate (if negativeExponent then shift - e else shift + e))
          rest
      | .error rest =>
        if significand ≠ 0 && !negativeExponent then .error (stopAt .numberOutOfRange rest)
        else .ok (.float (Binary64.zero.withSign negative), skipDigits rest)
    else .error (stopPast 1 .invalidNumber (c :: t))

/-- The text behind the letter of an exponent. -/
def readExponent (negative : Bool) (significand : Nat) (shift : Int) : Reader Number
  | [] => readExponentDigits negative significand shift false []
  | c :: t =>
    if c = '+' then readExponentDigits negative significand shift false t
    else if c = '-' then readExponentDigits negative significand shift true t
    else readExponentDigits negative significand shift false (c :: t)

/-- The text behind the digits of a double. -/
def readScale (negative : Bool) (significand : Nat) (shift : Int) : Reader Number := fun t =>
  if startsWithExponent t then readExponent negative significand shift t.tail
  else toFloat negative significand shift t

/-- The text behind the point. -/
def readFraction (negative : Bool) (significand : Nat) (shift : Int) : Reader Number := fun t =>
  let (n, rest) := addDigits significand t
  let count : Int := t.length - rest.length
  if startsWithDigit t then readScale negative n (shift - count) (skipDigits rest)
  else if t = [] then .error (stopOn .endInValue t)
  else .error (stopOn .invalidNumber t)

/-- The text behind the integer part, which 64 bits hold. -/
def readTail (negative : Bool) (significand : Nat) : Reader Number := fun t =>
  if t.head? = some '.' then readFraction negative significand 0 t.tail
  else if startsWithExponent t then readExponent negative significand 0 t.tail
  else if negative then
    if significand = 0 || Nat.pow 2 63 < significand then toFloat true significand 0 t
    else .ok (.integer (-significand), t)
  else .ok (.integer significand, t)

/-- The text behind a significand that the next digit would overflow. -/
def readLongTail (negative : Bool) (significand : Nat) : Reader Number := fun t =>
  let rest := skipDigits t
  let shift : Int := t.length - rest.length
  if rest.head? = some '.' then readFraction negative significand shift rest.tail
  else readScale negative significand shift rest

/-- A number behind its sign. -/
def readMagnitude (negative : Bool) : Reader Number
  | [] => .error (stopAt .endInValue [])
  | c :: t =>
    if c = '0' then
      if startsWithDigit t then .error (stopOn .invalidNumber t) else readTail negative 0 t
    else if c.isDigit then
      let (n, rest) := addDigits (digitValue c) t
      if startsWithDigit rest then readLongTail negative n rest else readTail negative n rest
    else .error (stopPast 1 .invalidNumber (c :: t))

/-- Whether a number starts with this character. -/
def startsNumber (c : Char) : Bool := c = '-' || c.isDigit

/-- A number. -/
def readNumber : Reader Number
  | [] => readMagnitude false []
  | c :: t => if c = '-' then readMagnitude true t else readMagnitude false (c :: t)

/-- The text behind the exponent, past its letter, of a number that nobody wants. -/
def skipExponent (t : Text) : Except Stop Text :=
  let u := if t.head? = some '+' || t.head? = some '-' then t.tail else t
  if startsWithDigit u then .ok (skipDigits u) else .error (stopPast 1 .invalidNumber u)

/-- The text behind the point of a number that nobody wants. -/
def skipFraction (t : Text) : Except Stop Text :=
  let rest := skipDigits t
  if !startsWithDigit t then .error (stopOn .invalidNumber t)
  else if startsWithExponent rest then skipExponent rest.tail
  else .ok rest

/-- The text behind a number that nobody wants: its form is checked and its size is not. -/
def skipNumber (t : Text) : Except Stop Text :=
  let u := if t.head? = some '-' then t.tail else t
  if !startsWithDigit u then .error (stopPast 1 .invalidNumber u)
  else if u.head? = some '0' && startsWithDigit u.tail then .error (stopOn .invalidNumber u.tail)
  else
    let rest := skipDigits u
    if rest.head? = some '.' then skipFraction rest.tail
    else if startsWithExponent rest then skipExponent rest.tail
    else .ok rest

end Json
end IconAssets
