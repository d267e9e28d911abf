import IconAssets.Shell.Expression
import IconAssets.Shell.Format

/-!
# Rights

The rights of a file are twelve bits: three for each of the owner, the group and the others, and in
front of them three that say how the file is run or who may remove it.

A text changes rights: a number in base eight, or clauses between commas.  A clause names classes of
users, and adds, takes away or sets rights for them.  Where no class is named, what new files lack
is left alone.
-/

namespace IconAssets
namespace Shell

/-- What a step of a clause gives. -/
inductive Grant where
  /-- These bits. -/
  | bits (n : Nat)
  /-- These bits, and the right to run if somebody has it, or to enter a folder. -/
  | bitsAndRun (n : Nat)
  /-- What the class with these bits has. -/
  | copy (n : Nat)
  deriving DecidableEq, Repr

/-- A step of a change of rights. -/
structure RightsStep where
  /-- A plus, a minus or an equals sign. -/
  sign : Char
  /-- The bits of the classes that are named; none of them are if it is zero. -/
  affected : Nat
  grant : Grant
  /-- The bits of folders that the step speaks of. -/
  mentioned : Nat
  deriving DecidableEq, Repr

namespace Rights

/-- All bits. -/
def all : Nat := 4095

/-- The bits of the classes. -/
def classBits : List (Char × Nat) := [('u', 2496), ('g', 1080), ('o', 519), ('a', 4095)]

/-- The bits of the letters for all classes. -/
def letterBits : List (Char × Nat) :=
  [('r', 292), ('w', 146), ('x', 73), ('s', 3072), ('t', 512)]

/-- The bits of rights that a class may have. -/
def sharedBits : List (Char × Nat) := [('u', 448), ('g', 56), ('o', 7)]

/-- The bits that are kept for folders unless they are spoken of. -/
def keptBits : Nat := 3072

/-- The bits of one number that are not in another. -/
def without (m n : Nat) : Nat := m - (m &&& n)

/-- Whether a character stands for an operation. -/
def isSign (c : Char) : Bool := c = '+' || c = '-' || c = '='

/-- The number of digits from which on all bits of folders are spoken of. -/
def fullLength : Nat := 5

/-- The steps of a clause behind its classes; each call reads one.  The rest starts with something
else. -/
def stepsFrom (affected : Nat) : Nat → Text → Option (List RightsStep × Text)
  | 0, _ => none
  | fuel + 1, c :: t =>
    if !isSign c then some ([], c :: t)
    else do
      let digits := t.takeWhile isOctalDigit
      let letters := t.takeWhile fun c => (letterBits.lookup c).isSome || c = 'X'
      let bits := letters.foldl (fun n c => n ||| ((letterBits.lookup c).getD 0)) 0
      let step (grant : Grant) (value length : Nat) : Option (List RightsStep × Text) := do
        let mentioned := if affected = 0 then value else affected &&& value
        let (more, rest) ← stepsFrom affected fuel (t.drop length)
        return (⟨c, affected, grant, mentioned⟩ :: more, rest)
      match digits, t.head?.bind fun c => sharedBits.lookup c with
      | d :: ds, _ =>
        let n := (digitsAt 8 0 (d :: ds)).1
        let rest := t.drop (d :: ds).length
        if all < n || affected ≠ 0 || (rest ≠ [] && rest.head? ≠ some ',') then none
        else some ([⟨c, all, .bits n, all⟩], rest)
      | [], some bits => step (.copy bits) bits 1
      | [], none =>
        if 'X' ∈ letters then step (.bitsAndRun bits) bits letters.length
        else step (.bits bits) bits letters.length
  | _ + 1, [] => some ([], [])

/-- The steps of one clause. -/
def clause? (t : Text) : Option (List RightsStep) := do
  let who := t.takeWhile fun c => (classBits.lookup c).isSome
  let affected := who.foldl (fun n c => n ||| ((classBits.lookup c).getD 0)) 0
  let behind := t.drop who.length
  if !behind.head?.any isSign then none
  match ← stepsFrom affected (t.length + 1) behind with
  | (steps, []) => return steps
  | _ => none

/-- The steps of a text; none if it is none that changes rights. -/
def steps? (t : Text) : Option (List RightsStep) :=
  if t.head?.any isOctalDigit then
    let n := (digitsAt 8 0 t).1
    if !t.all isOctalDigit || all < n then none
    else
      let mentioned := if t.length < fullLength then (n &&& 3584) ||| 511 else all
      some [⟨'=', all, .bits n, mentioned⟩]
  else ((Text.pieces ',' t).mapM clause?).map List.flatten

/-- The bits of a class for all classes. -/
def spread (bits : Nat) : Nat :=
  [292, 146, 73].foldl (fun n mask => if bits &&& mask ≠ 0 then n ||| mask else n) bits

/-- The rights after a step; `lacking` are those that new files lack. -/
def apply (isFolder : Bool) (lacking : Nat) (old : Nat) (s : RightsStep) : Nat :=
  let kept := without (if isFolder then keptBits else 0) s.mentioned
  let value := match s.grant with
    | .bits n => n
    | .bitsAndRun n => if isFolder || old &&& 73 ≠ 0 then n ||| 73 else n
    | .copy n => spread (n &&& old)
  let value := without (value &&& (if s.affected = 0 then without all lacking else s.affected)) kept
  if s.sign = '+' then old ||| value
  else if s.sign = '-' then without old value
  else (old &&& ((if s.affected = 0 then 0 else without all s.affected) ||| kept)) ||| value

/-- The rights after all steps. -/
def applyAll (steps : List RightsStep) (isFolder : Bool) (lacking old : Nat) : Nat :=
  steps.foldl (apply isFolder lacking) (old &&& all)

/-- The rights in nine letters. -/
def letters (rights : Nat) : Text :=
  let three (shift special : Nat) (set : Char) : Text :=
    let bits := rights / Nat.pow 2 shift % 8
    let runs := Nat.testBit bits 0
    [if Nat.testBit bits 2 then 'r' else '-', if Nat.testBit bits 1 then 'w' else '-',
      if Nat.testBit rights special then (if runs then set else set.toUpper)
      else if runs then 'x' else '-']
  three 6 11 's' ++ three 3 10 's' ++ three 0 9 't'

end Rights

end Shell
end IconAssets
