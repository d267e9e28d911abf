import IconAssets.Decimal.Quantity

/-!
# Decimals with a number of places

A ratio is written with a fixed number of places behind the point, or with one digit in front of
the point and an exponent, or in the shorter of these two ways.  Each way rounds the exact ratio
once, a tie going to the even digit.
-/

namespace IconAssets

/-- How a quantity is written. -/
inductive Spelling where
  | fixed
  | scientific
  /-- With a number of digits, in the shorter way. -/
  | general
  | hexadecimal
  deriving DecidableEq, Repr

namespace Quantity

/-- A text of digits with zeros in front, up to a length. -/
def zeros (length : Nat) (digits : Text) : Text :=
  List.replicate (length - digits.length) '0' ++ digits

/-- A point and the digits behind it. -/
def fraction (alternative : Bool) (digits : Text) : Text :=
  if digits = [] && !alternative then [] else '.' :: digits

/-- A ratio with a number of places. -/
def fixedDigits (alternative : Bool) (places num den : Nat) : Text :=
  let ds := zeros (places + 1) (Nat.toDigits 10 (Binary64.roundDiv (num * Nat.pow 10 places) den))
  let size := ds.length - places
  ds.take size ++ fraction alternative (ds.drop size)

/-- The exponent of the first digit of a ratio. -/
def leadingExponent (num den : Nat) : Int :=
  if num = 0 then 0
  else if den ≤ num then ((Nat.toDigits 10 (num / den)).length : Int) - 1
  else
    let size : Int := (Nat.toDigits 10 ((den - 1) / num)).length
    0 - size

/-- The digits of a ratio, one in front of the point and others behind it, and the exponent. -/
def scientificDigits (places num den : Nat) : Nat × Int :=
  let e := leadingExponent num den
  let shift : Int := places - e
  let n := if 0 ≤ shift then Binary64.roundDiv (num * Nat.pow 10 shift.toNat) den
    else Binary64.roundDiv num (den * Nat.pow 10 (-shift).toNat)
  if n = Nat.pow 10 (places + 1) then (Nat.pow 10 places, e + 1) else (n, e)

/-- A text without the zeros at its end. -/
def withoutZeros (t : Text) : Text := (t.reverse.dropWhile (· = '0')).reverse

/-- A ratio with an exponent. -/
def scientificText (alternative trims : Bool) (places num den : Nat) : Text :=
  let (n, e) := scientificDigits places num den
  let ds := zeros (places + 1) (Nat.toDigits 10 n)
  let behind := ds.drop 1
  ds.take 1 ++ fraction alternative (if trims then withoutZeros behind else behind) ++
    (if e < 0 then ['e', '-'] else ['e', '+']) ++ zeros 2 (Nat.toDigits 10 e.natAbs)

/-- A ratio with a number of digits, in the shorter way. -/
def generalText (alternative : Bool) (digits num den : Nat) : Text :=
  let digits := max digits 1
  let e := (scientificDigits (digits - 1) num den).2
  if -4 ≤ e && e < digits then
    let t := fixedDigits alternative (digits - 1 - e).toNat num den
    if alternative || '.' ∉ t then t
    else
      let t := withoutZeros t
      if t.getLast? = some '.' then t.dropLast else t
  else scientificText alternative (!alternative) (digits - 1) num den

/-- A double in base sixteen, with a power of two. -/
def hexadecimalText (alternative : Bool) (places : Option Nat) (num den : Nat) : Text :=
  let binaryExponent : Int :=
    if num = 0 then 0
    else
      let e : Int := (num.log2 : Int) - (den.log2 : Int)
      let r := Binary64.scaled num den e
      max (-1022) (if r.1 < r.2 then e - 1 else e)
  let r := Binary64.scaled num den (binaryExponent - 52)
  let n := r.1 / r.2
  let (n, size) := match places with
    | some p => if p < 13 then (Binary64.roundDiv n (Nat.pow 16 (13 - p)), p) else (n * Nat.pow 16 (p - 13), p)
    | none => (n, 13)
  let ds := zeros (size + 1) (Nat.toDigits 16 n)
  let front := ds.take (ds.length - size)
  let behind := ds.drop (ds.length - size)
  '0' :: 'x' :: front ++
    fraction alternative (if places.isNone then withoutZeros behind else behind) ++
    (if binaryExponent < 0 then ['p', '-'] else ['p', '+']) ++ Nat.toDigits 10 binaryExponent.natAbs

/-- A quantity without its sign. -/
def magnitude (s : Spelling) (alternative : Bool) (places : Option Nat) : Quantity → Text
  | .infinite _ => "inf".toList
  | .undefined _ => "nan".toList
  | .finite _ num den =>
    match s with
    | .fixed => fixedDigits alternative (places.getD 6) num den
    | .scientific => scientificText alternative false (places.getD 6) num den
    | .general => generalText alternative (places.getD 6) num den
    | .hexadecimal => hexadecimalText alternative places num den

/-- Whether a quantity is a ratio. -/
def isFinite : Quantity → Bool
  | .finite _ _ _ => true
  | _ => false

end Quantity

end IconAssets
