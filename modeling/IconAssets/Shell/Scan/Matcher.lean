import IconAssets.Shell.Format
import IconAssets.Shell.Regex.Reader

/-!
# Expressions of scanning programs

Regular expressions are written in the extended way, over octets, with the escapes of texts.  A
repetition or a row without an operand is refused where nothing stands in front of it in the whole
expression.
-/

namespace IconAssets
namespace Shell
namespace Scan

open Regex (Draft)

/-- Why a text is no expression. -/
inductive MatcherFault where
  | noOperand
  | openGroup
  | badSet
  | badCount
  | repeatedStart
  | tooLarge

/-- The words for a fault. -/
def MatcherFault.message : MatcherFault → String
  | .noOperand => "missing operand"
  | .openGroup => "missing ')'"
  | .badSet => "bad class -- [], [^] or ["
  | .badCount => "bad interval expression"
  | .repeatedStart => "syntax error ^* or ^+"
  | .tooLarge => "resource exhaustion -- regular expression too large"

/-- The row of octets of a text. -/
def row (t : Text) : Array Spelled := (Regex.units false t).toArray

/-- The character that a backslash and the start of a text stand for in an expression, and what
follows. -/
def matcherEscape (t : Text) : Char × Text :=
  match t with
  | [] => ('\\', [])
  | c :: u =>
    match control? c with
    | some d => (d, u)
    | none =>
      let octal := (t.take 3).takeWhile isOctalDigit
      let hexadecimal := (u.take 2).takeWhile (Quantity.isDigitIn 16)
      if octal ≠ [] then
        (Char.ofNat ((digitsAt 8 0 octal).1 % 256), t.drop octal.length)
      else if c = 'x' && hexadecimal ≠ [] then
        (Char.ofNat (Quantity.ofDigits 16 hexadecimal), u.drop hexadecimal.length)
      else (c, u)

/-- A member of a set and what follows: a character, or a test for a named set. -/
def setMember (t : Text) : Except MatcherFault ((Char ⊕ (Spelled → Bool)) × Text) :=
  match t with
  | '[' :: ':' :: u =>
    let name := u.takeWhile (· ≠ ':')
    if (u.drop name.length).take 2 = [':', ']'] then
      match Regex.inClass? (String.ofList name) with
      | some f => .ok (.inr f, u.drop (name.length + 2))
      | none => .error .badSet
    else .ok (.inl '[', ':' :: u)
  | '\\' :: u => .ok (.inl (matcherEscape u).1, (matcherEscape u).2)
  | c :: u => .ok (.inl c, u)
  | [] => .error .badSet

/-- The test for a set up to its closing bracket, and what follows; each call takes a member. -/
def setMembers : Nat → Bool → Text → Except MatcherFault ((Spelled → Bool) × Text)
  | 0, _, _ | _, _, [] => .error .badSet
  | fuel + 1, isFirst, t => do
    if t.head? = some ']' && !isFirst then return (fun _ => false, t.tail)
    let (m, rest) ← setMember t
    let among (f : Spelled → Bool) (rest : Text) :
        Except MatcherFault ((Spelled → Bool) × Text) := do
      let (g, rest) ← setMembers fuel false rest
      return (fun u => f u || g u, rest)
    match m with
    | .inr f => among f rest
    | .inl c =>
      match rest with
      | '-' :: u =>
        match setMember u with
        | .ok (.inl d, after) =>
          if u.head? ≠ some ']' && c ≤ d then
            among (fun x => x.octets.head?.any fun y => c ≤ y && y ≤ d) after
          else among (fun x => x.octets = [c]) rest
        | _ => among (fun x => x.octets = [c]) rest
      | _ => among (fun x => x.octets = [c]) rest

/-- The set behind an opening bracket, and what follows. -/
def setAt (t : Text) : Except MatcherFault ((Spelled → Bool) × Text) := do
  match t with
  | '^' :: u =>
    let (f, rest) ← setMembers (u.length + 1) true u
    return (fun x => !f x, rest)
  | t => setMembers (t.length + 1) true t

/-- The least and the greatest number of repetitions behind an opening brace and what follows, if
there is a count. -/
def countAt (t : Text) : Except MatcherFault (Option (Nat × Option Nat × Text)) :=
  let least := t.takeWhile Char.isDigit
  let n := (digits? least).getD 0
  match t.drop least.length with
  | '\x7d' :: rest => if least = [] then .error .badCount else .ok (some (n, some n, rest))
  | ',' :: u =>
    let most := u.takeWhile Char.isDigit
    match u.drop most.length with
    | '\x7d' :: rest =>
      match digits? most with
      | none => .ok (some (n, if least = [] then some 0 else none, rest))
      | some k => if k < n then .error .badCount else .ok (some (n, some k, rest))
    | _ => .ok none
  | _ => .ok none

/-- Whether nothing may take the place of an operand: something has been read in front of the group
that is read. -/
def allowsNothing (d : Draft) : Bool := d.outer.any fun f => f.before.isSome || !f.row.isEmpty

/-- Adds what an expression is written with; each call takes a sign. -/
def readMatcher : Nat → Draft → Text → Except MatcherFault Draft
  | 0, d, _ | _, d, [] =>
    if !d.outer.isEmpty then .error .openGroup
    else if d.frame.row.isEmpty && d.frame.before.isSome then .error .noOperand
    else .ok d
  | fuel + 1, d, c :: t =>
    let unit (c : Char) (rest : Text) : Except MatcherFault Draft :=
      readMatcher fuel (d.add (.unit fun u => u.octets = [c]) .plain) rest
    let repeated (least : Nat) (most : Option Nat) (rest : Text) : Except MatcherFault Draft :=
      if d.frame.row.isEmpty then
        if allowsNothing d then readMatcher fuel d rest else .error .noOperand
      else readMatcher fuel (d.repeatLast least most) rest
    let afterStart := d.frame.row.head?.any fun p => p.2 = .anchor
    match c with
    | '\\' => unit (matcherEscape t).1 (matcherEscape t).2
    | '(' => readMatcher fuel d.enter t
    | ')' =>
      match d.close? with
      | none => unit c t
      | some closed =>
        if d.frame.row.isEmpty && !allowsNothing d then .error .noOperand
        else readMatcher fuel closed t
    | '|' => 
      if d.frame.row.isEmpty && !allowsNothing d then .error .noOperand
      else readMatcher fuel d.bar t
    | '*' => if afterStart then .error .repeatedStart else repeated 0 none t
    | '+' => if afterStart then .error .repeatedStart else repeated 1 none t
    | '?' => repeated 0 (some 1) t
    | '\x7b' => do
      match ← countAt t with
      | some (least, most, rest) =>
        
        if d.frame.row.isEmpty && !allowsNothing d then .error .tooLarge
        else repeated least most rest
      | none => unit c t
    | '.' => readMatcher fuel (d.add (.unit fun _ => true) .plain) t
    | '[' => do
      let (f, rest) ← setAt t
      readMatcher fuel (d.add (.unit f) .plain) rest
    | '^' => readMatcher fuel (d.add (.place fun a _ => a.isNone) .anchor) t
    | '$' => readMatcher fuel (d.add (.place fun _ b => b.isNone) .plain) t
    | c => unit c t

/-- The expression that a text spells. -/
def matcherOf (t : Text) : Except MatcherFault Regex := do
  let d ← readMatcher (t.length + 1) .start t
  return d.frame.regex

end Scan
end Shell
end IconAssets
