import IconAssets.Shell.Builtin

/-!
# Limits

The rights that new files lack are nine bits, three for each of the owner, the group and the others;
they are told and set as a number in base eight or by letters.

What a process may use has limits: one that holds, and one up to which it may be raised.
-/

namespace IconAssets
namespace Shell
namespace Builtin

/-- The letters of the rights, the greatest first. -/
def rightLetters : List (Char × Nat) := [('r', 4), ('w', 2), ('x', 1)]

/-- The letters of the classes of users, and how far left their bits stand. -/
def classLetters : List (Char × Nat) := [('u', 6), ('g', 3), ('o', 0)]

/-- Nine bits. -/
def allRights : Nat := 511

/-- The bits of one class among the rights. -/
def rightsOf (shift rights : Nat) : Nat := rights / Nat.pow 2 shift % 8

/-- The rights by letters. -/
def rightsText (rights : Nat) : Text :=
  Text.glue ',' (classLetters.map fun (c, shift) =>
    c :: '=' :: (rightLetters.filter fun r => Nat.testBit (rightsOf shift rights) (r.2.log2)).map (·.1))

/-- Changes rights by a text of letters: classes, an operator and rights, again and again. -/
def changeRights? (classes : List Nat) : Nat → Text → Nat → Option Nat
  | 0, _, _ => none
  | _ + 1, [], rights => some rights
  | fuel + 1, op :: t, rights =>
    if op ≠ '+' && op ≠ '-' && op ≠ '=' then none
    else
      let letters := t.takeWhile fun c => c ∈ ['r', 'w', 'x', 'X', 's', 't', 'u', 'g', 'o']
      let bits := letters.foldl (fun n c =>
        n ||| match rightLetters.lookup c, classLetters.lookup c with
          | some b, _ => b
          | none, some shift => rightsOf shift rights
          | none, none => 0) 0
      let mask := classes.foldl (fun n shift => n ||| (bits * Nat.pow 2 shift)) 0
      let whole := classes.foldl (fun n shift => n ||| (7 * Nat.pow 2 shift)) 0
      let rights :=
        if op = '+' then rights ||| mask
        else if op = '-' then rights &&& (allRights ^^^ mask)
        else (rights &&& (allRights ^^^ whole)) ||| mask
      changeRights? classes fuel (t.drop letters.length) rights

/-- The rights after a change by letters; none if there is something else in the text. -/
def rightsAfter? (t : Text) (rights : Nat) : Option Nat :=
  (Text.pieces ',' t).foldlM (fun rights clause =>
    let who := clause.takeWhile fun c => c ∈ ['u', 'g', 'o', 'a']
    let classes := if who = [] || 'a' ∈ who then [6, 3, 0] else who.filterMap fun c => classLetters.lookup c
    changeRights? classes (clause.length + 1) (clause.drop who.length) rights) rights

/-- Tells or sets which rights new files lack. -/
def umask : Builtin := fun _ args => do
  let (options, args) ← optionsOf ['S'] args
  Act.setStatus 0
  let lacking := (← get).lacking
  match args with
  | [] =>
    writeLine (if options ≠ [] then rightsText (allRights ^^^ lacking)
      else Quantity.zeros 4 (Nat.toDigits 8 lacking))
  | t :: _ =>
    if t.head?.any Char.isDigit then
      if t.all isOctalDigit then
        modify fun s => { s with lacking := (digitsAt 8 0 t).1 % (allRights + 1) }
      else Act.refuse (say "Illegal number: " ++ t)
    else
      match rightsAfter? t (allRights ^^^ lacking) with
      | some rights => modify fun s => { s with lacking := allRights ^^^ rights }
      | none => Act.refuse (say "Illegal mode: " ++ t)

/-- What the limits are about: the letter, the name, and the unit in which they are told. -/
def limitNames : List (Char × String × Nat) :=
  [('t', "time(seconds)", 1), ('f', "file(blocks)", 512), ('d', "data(kbytes)", 1024),
    ('s', "stack(kbytes)", 1024), ('c', "coredump(blocks)", 512), ('m', "memory(kbytes)", 1024),
    ('l', "locked memory(kbytes)", 1024), ('p', "process", 1), ('n', "nofiles", 1),
    ('v', "vmemory(kbytes)", 1024), ('w', "locks", 1), ('r', "rtprio", 1)]

/-- The limits at the start: the one that holds, and the one up to which it may be raised. -/
def firstLimits : List (Char × Option Nat × Option Nat) :=
  [('s', some 8388608, none), ('c', some 0, none), ('l', some 8388608, some 8388608),
    ('p', some 128604, some 128604), ('n', some 20000, some 20000), ('r', some 0, some 0)]

/-- Whether a limit is beyond another one. -/
def isBeyond (a b : Option Nat) : Bool :=
  match a, b with
  | _, none => false
  | none, some _ => true
  | some m, some n => n < m

/-- Tells or sets limits. -/
def ulimit : Builtin := fun _ args => do
  let (options, args) ← optionsOf ('H' :: 'S' :: 'a' :: limitNames.map (·.1)) args
  Act.setStatus 0
  let s ← get
  let onlyHard := (options.reverse.find? fun c => c = 'H' || c = 'S') = some 'H'
  let onlySoft := (options.reverse.find? fun c => c = 'H' || c = 'S') = some 'S'
  let limitOf (c : Char) : Option Nat × Option Nat :=
    (s.limits.lookup c <|> firstLimits.lookup c).getD (none, none)
  let shown (c : Char) (unit : Nat) : Text :=
    match if onlyHard then (limitOf c).2 else (limitOf c).1 with
    | none => say "unlimited"
    | some n => Text.ofNat (n / unit)
  let letter := ((options.filter fun c => c ∉ ['H', 'S', 'a']).getLast?).getD 'f'
  let unit := ((limitNames.lookup letter).map (·.2)).getD 1
  match args with
  | t :: more =>
    if 'a' ∈ options || more ≠ [] then Act.refuse (say "too many arguments")
    let value ←
      if t = say "unlimited" then pure none
      else if t.all Char.isDigit then pure (some ((digitsAt 10 0 t).1 * unit))
      else Act.refuse (say "bad number")
    let (soft, hard) := limitOf letter
    let newHard := if onlySoft then hard else value
    let newSoft := if onlyHard then soft else value
    let failed (reason : String) : Act Unit :=
      Act.refuse (say ("error setting limit (" ++ reason ++ ")"))
    if isBeyond newSoft newHard then failed "Invalid argument"
    if isBeyond newHard hard then failed "Operation not permitted"
    set { s with limits := (letter, newSoft, newHard) :: s.limits.filter fun e => e.1 ≠ letter }
  | [] =>
    if 'a' ∈ options then
      for (c, name, unit) in limitNames do
        let name := name.toList
        writeLine (name ++ List.replicate (20 - name.length) ' ' ++ ' ' :: shown c unit)
    else writeLine (shown letter unit)

end Builtin
end Shell
end IconAssets
