import IconAssets.Json.Value

/-!
# Writing JSON

Values are written in one of two layouts.  The compact layout has no blanks; the indented layout
has each item and member on a line of its own, two spaces further in than the bracket, and writes
an empty array or object as a pair of brackets.

Only quotes, backslashes and controls are escaped in strings.  A double is written with the
fewest digits that read back, in positional notation from 1e-5 up to below 1e16 and with an
exponent outside of that.
-/

namespace IconAssets
namespace Json

/-- The number of digits in the fixed-length escape of a control character. -/
def escapeDigits (n : Nat) : Text :=
  [Nat.digitChar (n / 4096 % 16), Nat.digitChar (n / 256 % 16), Nat.digitChar (n / 16 % 16),
    Nat.digitChar (n % 16)]

/-- One character of a string. -/
def escapeChar (c : Char) : Text :=
  if c = '"' then ['\\', '"']
  else if c = '\\' then ['\\', '\\']
  else if c = '\x08' then ['\\', 'b']
  else if c = '\x0c' then ['\\', 'f']
  else if c = '\n' then ['\\', 'n']
  else if c = '\r' then ['\\', 'r']
  else if c = '\t' then ['\\', 't']
  else if c.toNat < 0x20 then '\\' :: 'u' :: escapeDigits c.toNat
  else [c]

/-- A string with its quotes. -/
def printString (t : Text) : Text := '"' :: t.flatMap escapeChar ++ ['"']

/-- An integer in decimal. -/
def printInteger (i : Int) : Text :=
  if i < 0 then '-' :: Text.ofNat i.natAbs else Text.ofNat i.natAbs

/-- The number `digits * 10 ^ exponent` with at least one digit on both sides of the point, or
with one digit before the point and an exponent. -/
def printDecimal (digits : Nat) (exponent : Int) : Text :=
  let ds := Text.ofNat digits
  let point : Int := ds.length + exponent
  if -5 < point && point ≤ 16 then
    if 0 ≤ exponent then ds ++ List.replicate exponent.toNat '0' ++ ".0".toList
    else if 0 < point then ds.take point.toNat ++ '.' :: ds.drop point.toNat
    else "0.".toList ++ List.replicate (-point).toNat '0' ++ ds
  else
    let rest := ds.drop 1
    let sign := if 0 < point - 1 then ['+'] else ['-']
    ds.take 1 ++ (if rest = [] then [] else '.' :: rest) ++ 'e' :: sign ++
      Text.ofNat (point - 1).natAbs

/-- A double. -/
def printFloat (f : Binary64) : Text :=
  let magnitude := if f.significand = 0 then "0.0".toList else
    let d := f.shortest
    printDecimal d.1 d.2
  if f.negative then '-' :: magnitude else magnitude

/-- A number. -/
def Number.print : Number → Text
  | .integer i => printInteger i
  | .float f => printFloat f

/-- A truth value. -/
def printBool (b : Bool) : Text := if b then "true".toList else "false".toList

mutual

/-- A value in the compact layout. -/
def Value.compact : Value → Text
  | .null => "null".toList
  | .bool b => printBool b
  | .number n => n.print
  | .string t => printString t
  | .array items => '[' :: compactItems items
  | .object members => '\x7b' :: compactMembers members

/-- The items of an array and the closing bracket. -/
def compactItems : List Value → Text
  | [] => [']']
  | v :: vs => v.compact ++ compactMoreItems vs

/-- The items behind the first one and the closing bracket. -/
def compactMoreItems : List Value → Text
  | [] => [']']
  | v :: vs => ',' :: v.compact ++ compactMoreItems vs

/-- The members of an object and the closing brace. -/
def compactMembers : List (Text × Value) → Text
  | [] => ['\x7d']
  | (k, v) :: ms => printString k ++ ':' :: v.compact ++ compactMoreMembers ms

/-- The members behind the first one and the closing brace. -/
def compactMoreMembers : List (Text × Value) → Text
  | [] => ['\x7d']
  | (k, v) :: ms => ',' :: printString k ++ ':' :: v.compact ++ compactMoreMembers ms

end

/-- A new line and the blanks in front of a line at the given depth. -/
def newLine (depth : Nat) : Text := '\n' :: List.replicate (2 * depth) ' '

mutual

/-- A value in the indented layout, the line it starts on being at the given depth. -/
def Value.indented (depth : Nat) : Value → Text
  | .null => "null".toList
  | .bool b => printBool b
  | .number n => n.print
  | .string t => printString t
  | .array items => '[' :: indentedItems depth items
  | .object members => '\x7b' :: indentedMembers depth members

/-- The items of an array and the closing bracket. -/
def indentedItems (depth : Nat) : List Value → Text
  | [] => [']']
  | v :: vs => newLine (depth + 1) ++ v.indented (depth + 1) ++ indentedMoreItems depth vs

/-- The items behind the first one and the closing bracket. -/
def indentedMoreItems (depth : Nat) : List Value → Text
  | [] => newLine depth ++ [']']
  | v :: vs =>
    ',' :: newLine (depth + 1) ++ v.indented (depth + 1) ++ indentedMoreItems depth vs

/-- The members of an object and the closing brace. -/
def indentedMembers (depth : Nat) : List (Text × Value) → Text
  | [] => ['\x7d']
  | (k, v) :: ms =>
    newLine (depth + 1) ++ printString k ++ ": ".toList ++ v.indented (depth + 1) ++
      indentedMoreMembers depth ms

/-- The members behind the first one and the closing brace. -/
def indentedMoreMembers (depth : Nat) : List (Text × Value) → Text
  | [] => newLine depth ++ ['\x7d']
  | (k, v) :: ms =>
    ',' :: newLine (depth + 1) ++ printString k ++ ": ".toList ++ v.indented (depth + 1) ++
      indentedMoreMembers depth ms

end

/-- A document in the indented layout. -/
def Value.pretty (v : Value) : Text := v.indented 0

end Json
end IconAssets
