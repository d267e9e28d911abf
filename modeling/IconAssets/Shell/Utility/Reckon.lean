import IconAssets.Shell.Expression
import IconAssets.Shell.Regex.Reader
import IconAssets.Shell.Utility.Order

/-!
# Reckoning with words

An expression is a row of words: operands, brackets and operators, which bind more tightly the later
they stand in `operations`.  Its value is found while it is read, so of two mistakes the first one
that is met counts.  Operands that cannot change the value are read, but nothing is done with them.
-/

namespace IconAssets
namespace Shell
namespace Reckon

/-- A value. -/
inductive Value where
  | number (i : Int)
  | text (t : Text)

/-- Why some words have no value. -/
inductive Fault where
  /-- There is no word behind one that needs more. -/
  | missing (behind : Text)
  | unexpected (word : Text)
  | unclosed (behind : Text)
  /-- A word stands where a bracket should be closed. -/
  | insteadOfClosing (word : Text)
  | unopened
  | notInteger
  | zeroDivisor
  | pattern (fault : Regex.Fault)

/-- The text of a fault, by the way in which words are quoted. -/
def Fault.message (quote : Text → Text) : Fault → Text
  | .missing t => say "syntax error: missing argument after " ++ quote t
  | .unexpected t => say "syntax error: unexpected argument " ++ quote t
  | .unclosed t => say "syntax error: expecting ')' after " ++ quote t
  | .insteadOfClosing t => say "syntax error: expecting ')' instead of " ++ quote t
  | .unopened => say "syntax error: unexpected ')'"
  | .notInteger => say "non-integer argument"
  | .zeroDivisor => say "division by zero"
  | .pattern f => say f.message

/-- The integer that a text spells. -/
def integer? : Text → Option Int
  | '-' :: t => (digits? t).map fun n => -(n : Int)
  | t => (digits? t).map fun n => (n : Int)

namespace Value

/-- The text of a value. -/
def toText : Value → Text
  | .number i => say (toString i)
  | .text t => t

/-- The integer that a value is. -/
def toInt? : Value → Option Int
  | .number i => some i
  | .text t => integer? t

/-- The integer that a value has to be. -/
def toInt (v : Value) : Except Fault Int :=
  match v.toInt? with
  | some i => .ok i
  | none => .error .notInteger

/-- Whether a value is zero or empty. -/
def isNull (v : Value) : Bool := v.toText = [] || v.toInt? = some 0

/-- One for true and zero for false. -/
def ofBool (b : Bool) : Value := .number (if b then 1 else 0)

/-- The order of two values: that of integers if both are integers, else that of texts. -/
def order (v w : Value) : Ordering :=
  match v.toInt?, w.toInt? with
  | some i, some j => compare i j
  | _, _ => Order.ofTexts v.toText w.toText

end Value

/-- What an operator does. -/
inductive Operation where
  /-- The first operand unless it is null. -/
  | either
  /-- The first operand if none is null. -/
  | both
  | compare (holds : Ordering → Bool)
  | combine (f : Int → Int → Except Fault Int)
  | search

/-- A division that cannot divide by zero. -/
def dividing (f : Int → Int → Int) (i j : Int) : Except Fault Int :=
  if j = 0 then .error .zeroDivisor else .ok (f i j)

/-- The operators, those that bind most loosely first. -/
def operations : List (List (String × Operation)) :=
  [[("|", .either)], [("&", .both)],
    [("<", .compare (· == .lt)), ("<=", .compare (· != .gt)), ("=", .compare (· == .eq)),
      ("==", .compare (· == .eq)), ("!=", .compare (· != .eq)), (">=", .compare (· != .lt)),
      (">", .compare (· == .gt))],
    [("+", .combine fun i j => .ok (i + j)), ("-", .combine fun i j => .ok (i - j))],
    [("*", .combine fun i j => .ok (i * j)), ("/", .combine (dividing Int.tdiv)),
      ("%", .combine (dividing Int.tmod))],
    [(":", .search)]]

/-- The way of writing of expressions that are searched for. -/
def manner : Regex.Manner :=
  { extended := false
    looseStar := .literal
    looseBrace := .literal
    refusesDouble := false
    keepsBraces := false
    keepsClosing := false
    refusesBareClass := false
    escapesInSets := false
    hasShorthands := true
    ignoresCase := false
    perLine := false }

/-- What the start of a text matches: the text of the first group if there is a group, else the
number of characters. -/
def search (utf8 : Bool) (t pattern : Text) : Except Fault Value :=
  match Regex.read manner (Regex.units utf8 pattern) with
  | .error f => .error (.pattern f)
  | .ok r =>
    let us := (Regex.units utf8 t).toArray
    let m? := Regex.matchAt? r.regex us 0
    if r.groups = 0 then .ok (.number ((m?.map (·.stop)).getD 0))
    else
      let part : Text := match m?.bind fun m => m.groups.lookup 1 with
        | some (start, stop) => Regex.octetsOf (us.extract start stop).toList
        | none => []
      .ok (.text part)

namespace Operation

/-- Whether the second operand counts, given the first one. -/
def needsSecond (v : Value) : Operation → Bool
  | .either => v.isNull
  | .both => !v.isNull
  | _ => true

/-- The value of an operation. -/
def apply (utf8 : Bool) (v w : Value) : Operation → Except Fault Value
  | .either => .ok (if !v.isNull then v else if w.isNull then .number 0 else w)
  | .both => .ok (if v.isNull || w.isNull then .number 0 else v)
  | .compare holds => .ok (.ofBool (holds (v.order w)))
  | .combine f => do
    let i ← v.toInt
    let j ← w.toInt
    return .number (← f i j)
  | .search => Reckon.search utf8 v.toText w.toText

end Operation

/-- The place, from one on, of the first character of a text that is among others; zero if there is
none. -/
def indexIn (utf8 : Bool) (t among : Text) : Nat :=
  let wanted := (Regex.units utf8 among).map (·.octets)
  match (Regex.units utf8 t).findIdx? fun u => u.octets ∈ wanted with
  | some i => i + 1
  | none => 0

/-- The characters of a text from a place on, which is counted from one; empty if the place or the
length is no positive integer. -/
def cut (utf8 : Bool) (t : Text) (start length : Value) : Text :=
  match start.toInt?, length.toInt? with
  | some i, some n =>
    if 0 < i && 0 < n then
      Regex.octetsOf (((Regex.units utf8 t).drop (i.toNat - 1)).take n.toNat)
    else []
  | _, _ => []

/-- The words that are still to be read, and the last one that has been read. -/
structure Words where
  last : Text
  rest : List Text

/-- What reads words. -/
abbrev Read := StateT Words (Except Fault)

/-- Takes a word. -/
def word : Read Text := do
  let s ← get
  match s.rest with
  | t :: rest =>
    set (⟨t, rest⟩ : Words)
    return t
  | [] => throw (.missing s.last)

/-- Takes the bracket that closes an expression. -/
def closing : Read Unit := do
  let s ← get
  match s.rest with
  | [')'] :: rest => set (⟨[')'], rest⟩ : Words)
  | t :: _ => throw (.insteadOfClosing t)
  | [] => throw (.unclosed s.last)

/-- Takes an operator, if one of some operators comes next. -/
def operation? (among : List (String × Operation)) : Read (Option Operation) := do
  match (← get).rest with
  | t :: rest =>
    match among.lookup (String.ofList t) with
    | some o =>
      set (⟨t, rest⟩ : Words)
      return some o
    | none => return none
  | [] => return none

mutual

/-- Reads an expression of operators that bind at least as tightly as those of a level; only if it
is `live`, something is done with its operands. -/
def value (utf8 : Bool) : Nat → Nat → Bool → Read Value
  | 0, _, _ => return .number 0
  | fuel + 1, level, live => do
    match operations[level]? with
    | some among =>
      let v ← value utf8 fuel (level + 1) live
      more utf8 fuel level among live v
    | none => operand utf8 fuel live

/-- Reads operators and their second operands. -/
def more (utf8 : Bool) : Nat → Nat → List (String × Operation) → Bool → Value → Read Value
  | 0, _, _, _, v => return v
  | fuel + 1, level, among, live, v => do
    match ← operation? among with
    | none => return v
    | some o =>
      let w ← value utf8 fuel (level + 1) (live && o.needsSecond v)
      let x ← if live then o.apply utf8 v w else pure v
      more utf8 fuel level among live x

/-- Reads an operand: a word, an expression in brackets, or the name of a function and what it is
applied to. -/
def operand (utf8 : Bool) : Nat → Bool → Read Value
  | 0, _ => return .number 0
  | fuel + 1, live => do
    let t ← word
    match String.ofList t with
    | "+" => return .text (← word)
    | "length" => do
      let v ← operand utf8 fuel live
      return .number (Regex.units utf8 v.toText).length
    | "match" => do
      let v ← operand utf8 fuel live
      let w ← operand utf8 fuel live
      if live then search utf8 v.toText w.toText else pure v
    | "index" => do
      let v ← operand utf8 fuel live
      let w ← operand utf8 fuel live
      return .number (indexIn utf8 v.toText w.toText)
    | "substr" => do
      let v ← operand utf8 fuel live
      let start ← operand utf8 fuel live
      let length ← operand utf8 fuel live
      return .text (cut utf8 v.toText start length)
    | "(" => do
      let v ← value utf8 fuel 0 live
      closing
      return v
    | ")" => throw .unopened
    | _ => return .text t

end

/-- The value of some words. -/
def valueOf (utf8 : Bool) (words : List Text) : Except Fault Value := do
  let (v, s) ← (value utf8 (10 * (words.length + 1)) 0 true).run ⟨[], words⟩
  match s.rest with
  | [] => return v
  | t :: _ => throw (.unexpected t)

end Reckon

namespace Utility

/-- Writes the value of an expression. -/
def expr (c : Call) : Effect :=
  let words := if c.arguments.head? = some ['-', '-'] then c.arguments.drop 1 else c.arguments
  if words = [] then c.misuse 2 (say "missing operand")
  else
    match Reckon.valueOf c.speaksUtf8 words with
    | .ok v => { c.ok (v.toText ++ ['\n']) with status := if v.isNull then 1 else 0 }
    | .error f => c.refuse 2 (f.message c.quote)

end Utility

end Shell
end IconAssets
