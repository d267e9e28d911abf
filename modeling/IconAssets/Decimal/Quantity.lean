import IconAssets.Decimal.Binary64
import IconAssets.Text.Basic

/-!
# Quantities

A quantity is an exact ratio with a sign, or infinite, or no number at all.  Floating point numbers
of any size are quantities: a format of them has a number of binary digits and a range of
exponents, and a ratio is rounded to the nearest number of a format.

A quantity may be read from a text, in base ten or sixteen.
-/

namespace IconAssets

/-- A quantity, each kind with a sign. -/
inductive Quantity where
  | finite (negative : Bool) (num den : Nat)
  | infinite (negative : Bool)
  | undefined (negative : Bool)
  deriving DecidableEq, Repr

/-- A format of floating point numbers. -/
structure BinaryFormat where
  digits : Nat
  minExponent : Int
  maxExponent : Int

namespace BinaryFormat

/-- Numbers of 64 bits. -/
def double : BinaryFormat := ⟨53, -1074, 971⟩

/-- Numbers of 80 bits. -/
def extended : BinaryFormat := ⟨64, -16445, 16320⟩

/-- The significand and the exponent of the number nearest to `num / den`, a tie going to the even
one; none beyond the largest number. -/
def nearest? (f : BinaryFormat) (num den : Nat) : Option (Nat × Int) :=
  if num = 0 then some (0, 0)
  else
    let low : Int := (num.log2 : Int) - (den.log2 : Int) - f.digits
    let r := Binary64.scaled num den low
    let e := max f.minExponent (if r.1 / r.2 < Nat.pow 2 f.digits then low else low + 1)
    let r := Binary64.scaled num den e
    let m := Binary64.roundDiv r.1 r.2
    let (m, e) := if m = Nat.pow 2 f.digits then (Nat.pow 2 (f.digits - 1), e + 1) else (m, e)
    if f.maxExponent < e then none else some (m, e)

/-- The quantity nearest to `num / den`, and whether it is out of the range of the format. -/
def round (f : BinaryFormat) (negative : Bool) (num den : Nat) : Quantity × Bool :=
  match f.nearest? num den with
  | none => (.infinite negative, true)
  | some (m, e) =>
    let r := if 0 ≤ e then (m * Nat.pow 2 e.toNat, 1) else (m, Nat.pow 2 (-e).toNat)
    (.finite negative r.1 r.2,
      num ≠ 0 && m < Nat.pow 2 (f.digits - 1) && e = f.minExponent && r.1 * den ≠ num * r.2)

end BinaryFormat

namespace Quantity

/-- Zero. -/
def zero : Quantity := .finite false 0 1

/-- Whether a quantity has a minus sign. -/
def isNegative : Quantity → Bool
  | .finite n _ _ | .infinite n | .undefined n => n

/-- A natural number. -/
def ofNat (n : Nat) : Quantity := .finite false n 1

/-- The value of a digit in base sixteen. -/
def digit? (c : Char) : Option Nat :=
  if c.isDigit then some (c.toNat - 48)
  else if 'a' ≤ c && c ≤ 'f' then some (c.toNat - 87)
  else if 'A' ≤ c && c ≤ 'F' then some (c.toNat - 55)
  else none

/-- Whether a character is a digit in a base. -/
def isDigitIn (base : Nat) (c : Char) : Bool := (digit? c).any (· < base)

/-- The number that digits write in a base. -/
def ofDigits (base : Nat) (t : Text) : Nat := t.foldl (fun n c => n * base + (digit? c).getD 0) 0

/-- The exponent behind one of two letters at the start of a text, and what follows. -/
def exponentAt (lower upper : Char) (t : Text) : Int × Text :=
  match t with
  | [] => (0, [])
  | c :: u =>
    let down := u.head? = some '-'
    let v := if down || u.head? = some '+' then u.drop 1 else u
    if (c = lower || c = upper) && v.head?.any Char.isDigit then
      let n := ofDigits 10 (v.takeWhile Char.isDigit)
      (if down then -(n : Int) else n, v.dropWhile Char.isDigit)
    else (0, t)

/-- The exponent beyond which a number is out of all ranges. -/
def maxExponent : Nat := 20000

/-- The number at the start of a text in a base; `unit` is what its exponent counts. -/
def numeralAt? (f : BinaryFormat) (negative : Bool) (base unit : Nat) (lower upper : Char)
    (t : Text) : Option (Quantity × Bool × Text) :=
  let whole := t.takeWhile (isDigitIn base)
  let rest := t.drop whole.length
  let decimals := match rest with
    | '.' :: u => u.takeWhile (isDigitIn base)
    | _ => []
  if whole = [] && decimals = [] then none
  else
    let rest := if rest.head? = some '.' then rest.drop (decimals.length + 1) else rest
    let (e, rest) := exponentAt lower upper rest
    let n := ofDigits base (whole ++ decimals)
    let bound : Int := maxExponent + whole.length + decimals.length
    let e := max (-bound) (min e bound)
    let scale := Nat.pow base decimals.length
    let r := if 0 ≤ e then f.round negative (n * Nat.pow unit e.toNat) scale
      else f.round negative n (scale * Nat.pow unit (-e).toNat)
    some (r.1, r.2, rest)

/-- The quantity at the start of a text, whether it is out of range, and what follows; none if there
is no quantity. -/
def at? (f : BinaryFormat) (t : Text) : Option (Quantity × Bool × Text) :=
  let t := t.dropWhile fun c => c = ' ' || ('\t' ≤ c && c ≤ '\r')
  let negative := t.head? = some '-'
  let u := if negative || t.head? = some '+' then t.drop 1 else t
  let lower := u.map Char.toLower
  let starts (word : String) : Bool := word.toList.isPrefixOf lower
  if starts "infinity" then some (.infinite negative, false, u.drop 8)
  else if starts "inf" then some (.infinite negative, false, u.drop 3)
  else if starts "nan" then
    let rest := u.drop 3
    let name := (rest.drop 1).takeWhile fun c => c.isAlphanum || c = '_'
    some (.undefined negative, false,
      if rest.head? = some '(' && (rest.drop (name.length + 1)).head? = some ')' then
        rest.drop (name.length + 2)
      else rest)
  else
    let hexadecimal :=
      if starts "0x" then numeralAt? f negative 16 2 'p' 'P' (u.drop 2) else none
    hexadecimal <|> numeralAt? f negative 10 10 'e' 'E' u

end Quantity

end IconAssets
