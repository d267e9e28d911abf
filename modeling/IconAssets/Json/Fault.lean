import IconAssets.Json.Printer
import IconAssets.Text.Hidden
import IconAssets.Text.Utf8

/-!
# Why a JSON text is refused

A reader that cannot go on stops with a reason and with the number of bytes it has not consumed.
Line and column are found from that number once the whole text is known: lines count from one,
and the column is the number of consumed bytes behind the last newline.
-/

namespace IconAssets
namespace Json

/-- The kind of a value that stands where another kind is wanted. -/
inductive Found where
  | null
  | bool (b : Bool)
  | number (n : Number)
  | string (t : Text)
  | sequence
  | map
  deriving DecidableEq, Repr

def Value.found : Value → Found
  | .null => .null
  | .bool b => .bool b
  | .number n => .number n
  | .string t => .string t
  | .array _ => .sequence
  | .object _ => .map

/-- Why a text is refused. -/
inductive Reason where
  | endInValue
  | endInList
  | endInObject
  | endInString
  | expectedValue
  | expectedWord
  | invalidNumber
  | numberOutOfRange
  | expectedColon
  | keyMustBeString
  | expectedListCommaOrEnd
  | expectedObjectCommaOrEnd
  | trailingComma
  | trailingCharacters
  | controlCharacter
  | invalidEscape
  | loneSurrogate
  | unpairedSurrogate
  | tooDeep
  | missingField (key : Text)
  | duplicateField (key : Text)
  | invalidType (found : Found) (wanted : Text)
  | invalidValue (found : Found) (wanted : Text)
  | invalidLength (length : Nat) (wanted : Text)
  deriving DecidableEq, Repr

/-- A reader's stop: the reason, and how many bytes of the text it leaves. -/
structure Stop where
  reason : Reason
  left : Nat
  deriving DecidableEq, Repr

/-- Reads a value at the start of a text; the answer comes with the text behind it. -/
abbrev Reader (α : Type) := Text → Except Stop (α × Text)

/-- A stop in front of a text. -/
def stopAt (reason : Reason) (t : Text) : Stop := ⟨reason, Text.byteLength t⟩

/-- A stop behind the next bytes of a text, or behind all it has. -/
def stopPast (bytes : Nat) (reason : Reason) (t : Text) : Stop :=
  ⟨reason, Text.byteLength t - bytes⟩

/-- A stop that points at the next byte of a text, or at its end. -/
def stopOn (reason : Reason) (t : Text) : Stop := stopPast 1 reason t

/-- A place in a text. -/
structure Position where
  line : Nat
  column : Nat
  deriving DecidableEq, Repr

/-- The place behind one more byte. -/
def Position.step (p : Position) (b : UInt8) : Position :=
  if b = 10 then ⟨p.line + 1, 0⟩ else ⟨p.line, p.column + 1⟩

/-- The place behind the first `n` bytes of a text. -/
def Position.after (t : Text) (n : Nat) : Position :=
  ((Utf8.encode t).take n).foldl Position.step ⟨1, 0⟩

/-- A reason with its place. -/
structure Fault where
  reason : Reason
  position : Position
  deriving DecidableEq, Repr

/-- The fault that a stop means in a text. -/
def Stop.inText (s : Stop) (t : Text) : Fault :=
  ⟨s.reason, Position.after t (Text.byteLength t - s.left)⟩

/-- The words for a value that is not wanted. -/
def Found.message : Found → String
  | .null => "null"
  | .bool b => "boolean `" ++ String.ofList (printBool b) ++ "`"
  | .number (.integer i) => "integer `" ++ String.ofList (printInteger i) ++ "`"
  | .number (.float f) => "floating point `" ++ String.ofList (printFloat f) ++ "`"
  | .string t => "string " ++ String.ofList (Text.quoted t)
  | .sequence => "sequence"
  | .map => "map"

/-- The words for a reason. -/
def Reason.message : Reason → String
  | .endInValue => "EOF while parsing a value"
  | .endInList => "EOF while parsing a list"
  | .endInObject => "EOF while parsing an object"
  | .endInString => "EOF while parsing a string"
  | .expectedValue => "expected value"
  | .expectedWord => "expected ident"
  | .invalidNumber => "invalid number"
  | .numberOutOfRange => "number out of range"
  | .expectedColon => "expected `:`"
  | .keyMustBeString => "key must be a string"
  | .expectedListCommaOrEnd => "expected `,` or `]`"
  | .expectedObjectCommaOrEnd => "expected `,` or `\x7d`"
  | .trailingComma => "trailing comma"
  | .trailingCharacters => "trailing characters"
  | .controlCharacter => "control character (\\u0000-\\u001F) found while parsing a string"
  | .invalidEscape => "invalid escape"
  | .loneSurrogate => "lone leading surrogate in hex escape"
  | .unpairedSurrogate => "unexpected end of hex escape"
  | .tooDeep => "recursion limit exceeded"
  | .missingField key => "missing field `" ++ String.ofList key ++ "`"
  | .duplicateField key => "duplicate field `" ++ String.ofList key ++ "`"
  | .invalidType found wanted =>
    "invalid type: " ++ found.message ++ ", expected " ++ String.ofList wanted
  | .invalidValue found wanted =>
    "invalid value: " ++ found.message ++ ", expected " ++ String.ofList wanted
  | .invalidLength length wanted =>
    "invalid length " ++ toString length ++ ", expected " ++ String.ofList wanted

/-- The words for a fault. -/
def Fault.message (f : Fault) : String :=
  f.reason.message ++ " at line " ++ toString f.position.line ++ " column " ++
    toString f.position.column

end Json
end IconAssets
