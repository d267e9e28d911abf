import IconAssets.Shell.Expression
import IconAssets.Shell.Pattern
import IconAssets.Shell.State

/-!
# Conditions

A condition is a row of words that are operators and operands.  A word that looks like an operator
is an operand where an operator cannot stand.

Both sides of a condition are looked at, whatever the left one says, so that each fault is found.

A condition about a path sees what is on a volume, or what a stream leads to.
-/

namespace IconAssets
namespace Shell

/-- What a word of a condition is. -/
inductive Role where
  | ended
  | operand
  | unary
  | binary
  | negation
  | conjunction
  | disjunction
  | opening
  | closing
  deriving DecidableEq, Repr

/-- What conditions can see. -/
structure Sight where
  volume : Volume
  /-- What streams lead to. -/
  streams : Nat → Option Node
  /-- The numbers of the nodes that streams lead to. -/
  numbers : Nat → Option Nat

/-- The stream that a path means. -/
def streamPath? (path : Text) : Option Nat :=
  match [("/dev/stdin", 0), ("/dev/stdout", 1), ("/dev/stderr", 2)].lookup (String.ofList path) with
  | some n => some n
  | none =>
    let folder := ["/dev/fd/".toList, "/proc/self/fd/".toList].find? fun f => f.isPrefixOf path
    folder.bind fun f => digits? (path.drop f.length)

/-- The node that a path names. -/
def Sight.find? (v : Sight) (path : Text) : Option Node :=
  match streamPath? path with
  | some n => v.streams n
  | none => v.volume.find? (Pattern.pathOf path)

/-- The number of the node that a path names. -/
def Sight.numberOf? (v : Sight) (path : Text) : Option Nat :=
  match streamPath? path with
  | some n => v.numbers n
  | none => v.volume.numberOf? (Pattern.pathOf path)

/-- What a process can see. -/
def State.sight (s : State) : Sight :=
  { volume := s.disk
    streams := fun n => (s.handle? n).bind fun h => s.system.nodeOf h.2
    numbers := fun n =>
      match s.target? n with
      | some (.node k) => some k
      | _ => none }

/-- What can be seen without any streams. -/
def Sight.ofVolume (v : Volume) : Sight := ⟨v, fun _ => none, fun _ => none⟩

namespace Condition

/-- The operators with one operand. -/
def unaryOperators : List Text :=
  ["-n", "-z", "-b", "-c", "-d", "-e", "-f", "-g", "-h", "-k", "-p", "-r", "-s", "-t", "-u", "-w",
    "-x", "-G", "-L", "-O", "-S"].map String.toList

/-- The operators with two operands. -/
def binaryOperators : List Text :=
  ["=", "!=", "<", ">", "-eq", "-ne", "-lt", "-le", "-gt", "-ge", "-nt", "-ot", "-ef"].map
    String.toList

/-- What a word is as an operator. -/
def operatorRole? (t : Text) : Option Role :=
  if t ∈ unaryOperators then some .unary
  else if t ∈ binaryOperators then some .binary
  else if t = ['!'] then some .negation
  else if t = ['-', 'a'] then some .conjunction
  else if t = ['-', 'o'] then some .disjunction
  else if t = ['('] then some .opening
  else if t = [')'] then some .closing
  else none

/-- Whether a word in front of others is an operand although it looks like an operator with one
operand. -/
def standsAlone : List Text → Bool
  | [] => true
  | [_] => false
  | t :: _ :: _ => operatorRole? t = some .binary

/-- What the first of several words is. -/
def role : List Text → Role
  | [] => .ended
  | t :: ts =>
    match operatorRole? t with
    | none => .operand
    | some .unary => if standsAlone ts then .operand else .unary
    | some .opening => if ts = [] then .operand else .opening
    | some r => r

/-- A complaint about a word. -/
def about (t : Text) (message : String) : Text :=
  if t = [] then say message else t ++ say (": " ++ message)

/-- The integer that a word is. -/
def integerOf (t : Text) : Except Text Int :=
  match decimal? t with
  | some i => .ok i
  | none => .error (say "Illegal number: " ++ t)

/-- Whether an operator holds of an operand. -/
def holds (d : Sight) (op t : Text) : Except Text Bool :=
  let meets (test : Node → Bool) : Except Text Bool := .ok ((d.find? t).any test)
  match String.ofList op with
  | "-n" => .ok (t ≠ [])
  | "-z" => .ok (t = [])
  | "-t" => (integerOf t).map fun _ => false
  | "-e" | "-r" | "-w" | "-O" | "-G" => meets fun _ => true
  | "-d" => meets Node.isFolder
  | "-f" => meets Node.isFile
  | "-c" => meets Node.isDevice
  | "-p" => meets Node.isPipe
  | "-h" | "-L" => .ok (streamPath? t).isSome
  | "-s" => meets fun n => 0 < n.size
  | "-x" => meets fun n => n.isFolder || n.isRunnable
  | "-u" => meets fun n => Nat.testBit n.rights 11
  | "-g" => meets fun n => Nat.testBit n.rights 10
  | "-k" => meets fun n => Nat.testBit n.rights 9
  | _ => .ok false

/-- Whether an operator holds between two operands. -/
def holdsBetween (d : Sight) (op a b : Text) : Except Text Bool :=
  let compare (f : Int → Int → Bool) : Except Text Bool :=
    match integerOf a, integerOf b with
    | .ok x, .ok y => .ok (f x y)
    | .error e, _ => .error e
    | _, .error e => .error e
  let times (f : Int → Int → Bool) : Except Text Bool :=
    match d.find? a, d.find? b with
    | some m, some n => .ok (f m.changed n.changed)
    | _, _ => .ok false
  match String.ofList op with
  | "=" => .ok (a = b)
  | "!=" => .ok (a ≠ b)
  | "<" => .ok (Text.comesBefore a b)
  | ">" => .ok (Text.comesBefore b a)
  | "-eq" => compare fun x y => x = y
  | "-ne" => compare fun x y => x ≠ y
  | "-lt" => compare fun x y => x < y
  | "-le" => compare fun x y => x ≤ y
  | "-gt" => compare fun x y => y < x
  | "-ge" => compare fun x y => y ≤ x
  | "-ef" => .ok ((d.numberOf? a).isSome && d.numberOf? a = d.numberOf? b)
  | "-nt" => times fun m n => n < m
  | "-ot" => times fun m n => m < n
  | _ => .ok false

mutual

/-- Conditions of which one is to hold.  The answer comes with the words from the last one that has
been looked at. -/
def either (d : Sight) : Nat → Role → List Text → Except Text (Bool × List Text)
  | 0, _, ws => .ok (false, ws)
  | fuel + 1, r, ws => do
    let (a, ws) ← both d fuel r ws
    if role (ws.drop 1) = .disjunction then
      let (b, ws) ← either d fuel (role (ws.drop 2)) (ws.drop 2)
      return (a || b, ws)
    else return (a, ws)

/-- Conditions that are all to hold. -/
def both (d : Sight) : Nat → Role → List Text → Except Text (Bool × List Text)
  | 0, _, ws => .ok (false, ws)
  | fuel + 1, r, ws => do
    let (a, ws) ← negated d fuel r ws
    if role (ws.drop 1) = .conjunction then
      let (b, ws) ← both d fuel (role (ws.drop 2)) (ws.drop 2)
      return (a && b, ws)
    else return (a, ws)

/-- A condition that may be turned around. -/
def negated (d : Sight) : Nat → Role → List Text → Except Text (Bool × List Text)
  | 0, _, ws => .ok (false, ws)
  | fuel + 1, r, ws =>
    if r = .negation then do
      let s := role (ws.drop 1)
      let (a, ws) ← negated d fuel s (if s = .ended then ws else ws.drop 1)
      return (!a, ws)
    else primary d fuel r ws

/-- One condition. -/
def primary (d : Sight) : Nat → Role → List Text → Except Text (Bool × List Text)
  | 0, _, ws => .ok (false, ws)
  | fuel + 1, r, ws =>
    let op := ws.headD []
    match r with
    | .ended => .ok (false, ws)
    | .opening =>
      if role (ws.drop 1) = .closing then .ok (false, ws.drop 1)
      else do
        let (a, ws) ← either d fuel (role (ws.drop 1)) (ws.drop 1)
        if role (ws.drop 1) = .closing then return (a, ws.drop 1)
        else .error (say "closing paren expected")
    | .unary =>
      match ws.drop 1 with
      | [] => .error (about op "argument expected")
      | t :: rest => do
        return (← holds d op t, t :: rest)
    | _ =>
      if role (ws.drop 1) = .binary then
        match ws.drop 1 with
        | o :: t :: rest => do
          return (← holdsBetween d o op t, t :: rest)
        | o :: [] => .error (about o "argument expected")
        | [] => .ok (false, ws)
      else .ok (op ≠ [], ws)

end

/-- Whether a condition holds whose first word has a known role. -/
def whole (d : Sight) (r : Role) (ws : List Text) : Except Text Bool := do
  match ← either d (8 * ws.length + 8) r ws with
  | (_, t :: _ :: _) => .error (about t "unexpected operator")
  | (b, _) => return b

/-- Whether a condition holds.  With three or four words, what the second one is comes first. -/
def evaluate (d : Sight) : List Text → Except Text Bool
  | [] => .ok false
  | w :: ws =>
    let all := w :: ws
    if all.length = 3 && (ws.head?.bind operatorRole?) = some .binary then whole d .operand all
    else if all.length = 3 || all.length = 4 then
      if w = ['('] && all.getLast? = some [')'] then
        let inner := ws.dropLast
        whole d (role inner) inner
      else if w = ['!'] then (evaluate d ws).map (!·)
      else whole d (role all) all
    else whole d (role all) all

end Condition

end Shell
end IconAssets
