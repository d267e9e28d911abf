import IconAssets.Shell.Command

/-!
# Shell arithmetic

Expressions over integers of 64 bits, with variables.  A variable without value counts as zero; an
expression may also assign variables.

An operand that does not count, such as the right one of a conjunction whose left one is zero, is
read but not evaluated.
-/

namespace IconAssets
namespace Shell

/-- Keeps an integer within 64 bits. -/
def wrap (i : Int) : Int := Int.bmod i (Nat.pow 2 64)

/-- The integer of a truth value. -/
def truth (b : Bool) : Int := if b then 1 else 0

/-- The text from its first character that is not blank. -/
def skipGaps (t : Text) : Text := t.dropWhile fun c => c = ' ' || ('\t' ≤ c && c ≤ '\r')

/-- The value of a digit in base sixteen. -/
def digit? (c : Char) : Option Nat :=
  if c.isDigit then some (c.toNat - 48)
  else if 'a' ≤ c && c ≤ 'f' then some (c.toNat - 87)
  else if 'A' ≤ c && c ≤ 'F' then some (c.toNat - 55)
  else none

/-- The number at the start of a text, in a given base, and what follows. -/
def digitsAt (base : Nat) : Nat → Text → Nat × Text
  | n, [] => (n, [])
  | n, c :: t =>
    match digit? c with
    | some d => if d < base then digitsAt base (n * base + d) t else (n, c :: t)
    | none => (n, c :: t)

/-- The number at the start of a text, and what follows: in base sixteen behind `0x`, in base
eight behind another zero, and else in base ten. -/
def naturalAt : Text → Nat × Text
  | '0' :: x :: c :: t =>
    if (x = 'x' || x = 'X') && (digit? c).isSome then digitsAt 16 0 (c :: t)
    else digitsAt 8 0 (x :: c :: t)
  | '0' :: t => digitsAt 8 0 t
  | t => digitsAt 10 0 t

/-- The greatest integer of 64 bits. -/
def maxInteger : Int := Nat.pow 2 63 - 1

/-- Keeps an integer between the least and the greatest one. -/
def clamp (i : Int) : Int := max (-maxInteger - 1) (min i maxInteger)

/-- The sign at the start of a text, and what follows. -/
def signAt (t : Text) : Bool × Text :=
  match t with
  | '-' :: u => (true, u)
  | '+' :: u => (false, u)
  | u => (false, u)

/-- A number with its sign. -/
def signed (negative : Bool) (n : Nat) : Int := if negative then -(n : Int) else n

/-- The integer at the start of a text, with blanks and a sign in front, and what follows; none if
there is no digit. -/
def integerAt? (t : Text) : Option (Int × Text) :=
  let (negative, u) := signAt (skipGaps t)
  if u.head?.any Char.isDigit then
    let (n, rest) := naturalAt u
    some (signed negative n, rest)
  else none

/-- The integer of 64 bits that a text is; one that is out of reach becomes the nearest. -/
def integer? (t : Text) : Option Int :=
  match integerAt? t with
  | some (i, []) => some (clamp i)
  | _ => none

/-- The integer of 64 bits in base ten that a text is, with blanks around it. -/
def decimal? (t : Text) : Option Int :=
  let (negative, u) := signAt (skipGaps t)
  let (n, rest) := digitsAt 10 0 u
  let i := signed negative n
  if u.head?.any Char.isDigit && skipGaps rest = [] && clamp i = i then some i else none

/-- The natural number that the digits of a text spell. -/
def digits? (t : Text) : Option Nat :=
  if t ≠ [] && t.all Char.isDigit then some (digitsAt 10 0 t).1 else none

/-- A token of an expression. -/
inductive Term where
  | number (i : Int)
  | variableName (name : Text)
  | mark (t : Text)
  | bad
  deriving DecidableEq, Repr

/-- The marks of expressions, the longer ones first. -/
def marks : List Text :=
  ["<<=", ">>=", "+=", "-=", "*=", "/=", "%=", "&=", "^=", "|=", "==", "!=", "<=", ">=", "<<",
    ">>", "&&", "||", "+", "-", "*", "/", "%", "&", "^", "|", "=", "<", ">", "!", "~", "?", ":",
    "(", ")"].map String.toList

/-- The tokens of an expression; each call takes a character. -/
def termsFrom : Nat → Text → List Term
  | 0, _ => []
  | fuel + 1, t =>
    match skipGaps t with
    | [] => []
    | c :: u =>
      if c.isDigit then
        let (n, rest) := naturalAt (c :: u)
        .number (clamp n) :: termsFrom fuel rest
      else if c.isAlpha || c = '_' then
        .variableName ((c :: u).takeWhile isNameChar) ::
          termsFrom fuel ((c :: u).dropWhile isNameChar)
      else
        match marks.find? fun m => m.isPrefixOf (c :: u) with
        | some m => .mark m :: termsFrom fuel ((c :: u).drop m.length)
        | none => [.bad]

/-- The strength of a binary operator: one with a smaller number takes its operands first. -/
def strength? (op : Text) : Option Nat :=
  [("*", 0), ("/", 0), ("%", 0), ("+", 1), ("-", 1), ("<<", 2), (">>", 2), ("<", 3), ("<=", 3),
    (">", 3), (">=", 3), ("==", 4), ("!=", 4), ("&", 5), ("^", 6), ("|", 7)].lookup
      (String.ofList op)

/-- The bits of an integer. -/
def bitsOf (i : Int) : Nat := (i % Nat.pow 2 64).toNat

/-- The value of a binary operator; none for a division by zero. -/
def operate (op : Text) (a b : Int) : Option Int :=
  match String.ofList op with
  | "*" => some (wrap (a * b))
  | "/" => if b = 0 then none else some (wrap (a.tdiv b))
  | "%" => if b = 0 then none else some (a.tmod b)
  | "+" => some (wrap (a + b))
  | "-" => some (wrap (a - b))
  | "<<" => some (wrap (a * Nat.pow 2 (bitsOf b % 64)))
  | ">>" => some (a / Nat.pow 2 (bitsOf b % 64))
  | "<" => some (truth (a < b))
  | "<=" => some (truth (a ≤ b))
  | ">" => some (truth (b < a))
  | ">=" => some (truth (b ≤ a))
  | "==" => some (truth (a = b))
  | "!=" => some (truth (a ≠ b))
  | "&" => some (wrap (Int.ofNat (bitsOf a &&& bitsOf b)))
  | "^" => some (wrap (Int.ofNat (bitsOf a ^^^ bitsOf b)))
  | "|" => some (wrap (Int.ofNat (bitsOf a ||| bitsOf b)))
  | _ => none

/-- Why an expression has no value. -/
inductive Sumless where
  /-- The expression is not well formed, or divides by zero. -/
  | expression (message : String)
  /-- The value of a variable is no number. -/
  | value (t : Text)
  deriving DecidableEq, Repr

/-- What is left of an expression, and the variables it has assigned, the last one first. -/
structure Sum where
  terms : List Term
  assigned : List (Text × Int)

/-- A step in the evaluation of an expression. -/
abbrev Evaluation := EStateM Sumless Sum

namespace Evaluation

/-- Refuses the expression. -/
def refuse {α : Type} (message : String) : Evaluation α := throw (.expression message)

/-- The next token. -/
def peek? : Evaluation (Option Term) := return (← get).terms.head?

/-- Goes over the next token. -/
def advance : Evaluation Unit := modify fun s => { s with terms := s.terms.drop 1 }

/-- The value of a variable. -/
def lookUp (value : Text → Text) (name : Text) : Evaluation Int := do
  match (← get).assigned.lookup name with
  | some i => return i
  | none =>
    let t := value name
    if skipGaps t = [] then return 0
    else
      match integer? t with
      | some i => return i
      | none => throw (.value t)

/-- The value of an operator. -/
def apply (op : Text) (a b : Int) : Evaluation Int :=
  match operate op a b with
  | some i => return i
  | none => refuse "division by zero"

/-- Assigns a variable. -/
def assign (name : Text) (i : Int) : Evaluation Int := do
  modify fun s => { s with assigned := (name, i) :: s.assigned }
  return i

/-- The operator of an assignment without its equals sign. -/
def assigning? : List Term → Option (Text × Text)
  | .variableName name :: .mark m :: _ =>
    if m = ['='] then some (name, [])
    else if m.getLast? = some '=' && (strength? m.dropLast).isSome && m ≠ ['=', '='] &&
      (strength? m).isNone then some (name, m.dropLast)
    else none
  | _ => none

mutual

/-- An assignment or a choice; `live` tells whether it counts. -/
def assignment (value : Text → Text) : Nat → Bool → Evaluation Int
  | 0, _ => refuse "expecting primary"
  | fuel + 1, live => do
    match assigning? (← get).terms with
    | none => choice value fuel live
    | some (name, op) => do
      advance
      advance
      let i ← assignment value fuel live
      if !live then return i
      else if op = [] then assign name i
      else assign name (← apply op (← lookUp value name) i)

/-- A choice between two expressions. -/
def choice (value : Text → Text) : Nat → Bool → Evaluation Int
  | 0, _ => refuse "expecting primary"
  | fuel + 1, live => do
    let a ← disjunction value fuel live
    if (← peek?) ≠ some (.mark ['?']) then return a
    else do
      advance
      let b ← assignment value fuel (live && a ≠ 0)
      if (← peek?) ≠ some (.mark [':']) then refuse "expecting ':'"
      else do
        advance
        let c ← choice value fuel (live && a = 0)
        return if a ≠ 0 then b else c

/-- Expressions of which one is to be true. -/
def disjunction (value : Text → Text) : Nat → Bool → Evaluation Int
  | 0, _ => refuse "expecting primary"
  | fuel + 1, live => do
    let a ← conjunction value fuel live
    if (← peek?) ≠ some (.mark ['|', '|']) then return a
    else do
      advance
      let b ← disjunction value fuel (live && a = 0)
      return truth (a ≠ 0 || b ≠ 0)

/-- Expressions that are all to be true. -/
def conjunction (value : Text → Text) : Nat → Bool → Evaluation Int
  | 0, _ => refuse "expecting primary"
  | fuel + 1, live => do
    let a ← primary value fuel live
    let a ← operations value fuel live 8 a
    if (← peek?) ≠ some (.mark ['&', '&']) then return a
    else do
      advance
      let b ← conjunction value fuel (live && a ≠ 0)
      return truth (a ≠ 0 && b ≠ 0)

/-- Goes on behind an operand with the operators up to a strength. -/
def operations (value : Text → Text) : Nat → Bool → Nat → Int → Evaluation Int
  | 0, _, _, _ => refuse "expecting primary"
  | fuel + 1, live, bound, a => do
    match ← peek? with
    | some (.mark op) =>
      match strength? op with
      | none => return a
      | some s =>
        if bound ≤ s then return a
        else do
          advance
          let b ← primary value fuel live
          let b ← operations value fuel live s b
          let c ← if live then apply op a b else pure b
          operations value fuel live bound c
    | _ => return a

/-- A number, a variable, or an expression with a sign or in parentheses. -/
def primary (value : Text → Text) : Nat → Bool → Evaluation Int
  | 0, _ => refuse "expecting primary"
  | fuel + 1, live => do
    match ← peek? with
    | some (.number i) => do
      advance
      return i
    | some (.variableName name) => do
      advance
      if live then lookUp value name else return 0
    | some (.mark m) => do
      advance
      match String.ofList m with
      | "(" => do
        let a ← assignment value fuel live
        if (← peek?) ≠ some (.mark [')']) then refuse "expecting ')'"
        else do
          advance
          return a
      | "+" => primary value fuel live
      | "-" => return wrap (-(← primary value fuel live))
      | "!" => return truth ((← primary value fuel live) = 0)
      | "~" => return -(← primary value fuel live) - 1
      | _ => refuse "expecting primary"
    | _ => refuse "expecting primary"

end

/-- A whole expression. -/
def whole (value : Text → Text) (fuel : Nat) : Evaluation Int := do
  let i ← assignment value fuel true
  if (← get).terms = [] then return i else refuse "expecting EOF"

end Evaluation

/-- The value of an expression, and the variables it assigns in order. -/
def evaluate (value : Text → Text) (expression : Text) :
    Except Sumless (Int × List (Text × Int)) :=
  let terms := termsFrom (expression.length + 1) expression
  match (Evaluation.whole value (8 * terms.length + 8)).run ⟨terms, []⟩ with
  | .ok i s => .ok (i, s.assigned.reverse)
  | .error e _ => .error e

end Shell
end IconAssets
