import IconAssets.Shell.Utility.Lines

/-!
# Translating characters

Characters of the input are replaced by those at the same places of another list, removed, or kept
only once where they follow each other.  Lists of characters are written with ranges, named sets,
repeated characters and escapes.
-/

namespace IconAssets
namespace Shell
namespace Utility

/-- A part of a list of characters. -/
inductive ListPart where
  | chars (t : Text)
  /-- The characters of a named set. -/
  | named (name : String) (t : Text)
  /-- A character that is repeated; without a number it fills the list up. -/
  | repeated (c : Char) (times : Option Nat)

namespace ListPart

/-- The octets from one to another. -/
def octets (first last : Nat) : Text := (List.range (last + 1 - first)).map fun i => Char.ofNat (first + i)

/-- All octets. -/
def everything : Text := octets 0 255

/-- The named sets. -/
def sets : List (String × (Char → Bool)) :=
  Pattern.classes ++ [("cntrl", fun c => c < ' ' || c = '\x7f'),
    ("print", fun c => ' ' ≤ c && c ≤ '~'), ("graph", fun c => '!' ≤ c && c ≤ '~')]

/-- The members of a part where nothing is to be filled up. -/
def members : ListPart → Text
  | .chars t | .named _ t => t
  | .repeated c times => List.replicate (times.getD 0) c

/-- A character behind a backslash, and what follows. -/
def escapeAt (t : Text) : Char × Text :=
  match t with
  | [] => ('\\', [])
  | c :: u =>
    let digits := (t.take 3).takeWhile isOctalDigit
    if digits ≠ [] then
      let n := (digitsAt 8 0 digits).1
      if n < 256 then (Char.ofNat n, t.drop digits.length)
      else (Char.ofNat (n / 8), t.drop 2)
    else ((control? c).getD c, u)

/-- The characters of a list with their escapes resolved, each with whether it was escaped. -/
def glyphs : Nat → Text → Pattern
  | 0, _ => []
  | _ + 1, [] => []
  | fuel + 1, '\\' :: t =>
    let r := escapeAt t
    ⟨r.1, true⟩ :: glyphs fuel r.2
  | fuel + 1, c :: t => ⟨c, false⟩ :: glyphs fuel t

/-- What stands between brackets with a mark inside them, and what follows. -/
def bracketed? (mark : Char) (p : Pattern) : Option (Text × Pattern) :=
  match p with
  | a :: b :: rest =>
    if Pattern.isMark a '[' && Pattern.isMark b mark then
      let size := (List.range rest.length).find? fun i =>
        ((rest.drop i).head?.any (Pattern.isMark · mark)) &&
          ((rest.drop (i + 1)).head?.any (Pattern.isMark · ']'))
      size.map fun n => (Pattern.text (rest.take n), rest.drop (n + 2))
    else none
  | _ => none

/-- A repeated character in brackets and what follows; the number is in base eight behind a zero. -/
def repeated? (p : Pattern) : Option (Char × Text × Pattern) :=
  match p with
  | a :: c :: star :: rest =>
    if Pattern.isMark a '[' && Pattern.isMark star '*' then
      let count := rest.takeWhile fun g => !Pattern.isMark g ']'
      if count.length < rest.length && count.all fun g => !g.quoted then
        some (c.char, Pattern.text count, rest.drop (count.length + 1))
      else none
    else none
  | _ => none

/-- The parts of a list. -/
def ofGlyphs (c : Call) : Nat → Pattern → Except Text (List ListPart)
  | 0, _ => .ok []
  | _ + 1, [] => .ok []
  | fuel + 1, g :: p => do
    match bracketed? ':' (g :: p), bracketed? '=' (g :: p), repeated? (g :: p) with
    | some (name, rest), _, _ =>
      match sets.lookup (String.ofList name) with
      | some f => return .named (String.ofList name) (everything.filter f) :: (← ofGlyphs c fuel rest)
      | none =>
        if name = [] then .error (say "missing character class name '[::]'")
        else .error (say "invalid character class " ++ c.quote name)
    | none, some (t, rest), _ =>
      match t with
      | [x] => return .chars [x] :: (← ofGlyphs c fuel rest)
      | [] => .error (say "missing equivalence class character '[==]'")
      | t => .error (t ++ say ": equivalence class operand must be a single character")
    | none, none, some (x, count, rest) =>
      let number := if count.head? = some '0' then
          (if count.all isOctalDigit then some (digitsAt 8 0 count).1 else none)
        else if count = [] then some 0
        else digits? count
      match number with
      | none => .error (say "invalid repeat count " ++ c.quote count ++ say " in [c*n] construct")
      | some n => return .repeated x (if n = 0 then none else some n) :: (← ofGlyphs c fuel rest)
    | none, none, none =>
      match p with
      | dash :: last :: rest =>
        if Pattern.isMark dash '-' then
          if last.char < g.char then
            .error (say "range-endpoints of " ++ c.quote [g.char, '-', last.char] ++
              say " are in reverse collating sequence order")
          else return .chars (octets g.char.toNat last.char.toNat) :: (← ofGlyphs c fuel rest)
        else return .chars [g.char] :: (← ofGlyphs c fuel p)
      | _ => return .chars [g.char] :: (← ofGlyphs c fuel p)

/-- Reads a list. -/
def read (c : Call) (t : Text) : Except Text (List ListPart) :=
  ofGlyphs c (t.length + 1) (glyphs (t.length + 1) t)

/-- The members of a list, filled up to a length at the place for it. -/
def filled (length : Nat) (ps : List ListPart) : Text :=
  let size := (ps.flatMap members).length
  ps.flatMap fun p =>
    match p with
    | .repeated c none => List.replicate (length - size) c
    | p => p.members

/-- Whether a list has a part that fills it up. -/
def fills (ps : List ListPart) : Bool :=
  ps.any fun p =>
    match p with
    | .repeated _ none => true
    | _ => false

/-- The names of the sets of letters of one kind in a list, with the places where they start. -/
def caseSets (ps : List ListPart) : List (Nat × String) :=
  (ps.foldl (fun (found, start) p =>
    (match p with
      | .named name _ => if name = "upper" || name = "lower" then found ++ [(start, name)] else found
      | _ => found,
      start + p.members.length)) (([], 0) : List (Nat × String) × Nat)).1

end ListPart

/-- A text with each of certain characters only once where it is repeated. -/
def squeeze (isSqueezed : Char → Bool) : Option Char → Text → Text
  | _, [] => []
  | last, c :: t =>
    if isSqueezed c && last = some c then squeeze isSqueezed last t
    else c :: squeeze isSqueezed (some c) t

/-- What each octet becomes. -/
def translation (first second : Text) : Array Char :=
  let last := second.getLast?
  (first.zipIdx 0).foldl (fun table (c, i) =>
    match second[i]? <|> last with
    | some d => table.setIfInBounds c.toNat d
    | none => table) ListPart.everything.toArray

/-- Translates, removes or squeezes characters. -/
def tr (c : Call) : Effect :=
  c.withOptions "+cCdst" ["complement,c", "delete,d", "squeeze-repeats,s", "truncate-set1,t"] 1
    fun options sets =>
    let on (k : String) : Bool := isSet options k
    let translates := sets.length = 2 && !on "d"
    let after (t : Text) (message : String) : Effect :=
      c.misuse 1 (say "missing operand after " ++ c.quote t ++ say ("\n" ++ message))
    match sets with
    | [] => c.missing "operand"
    | [t] =>
      if on "d" = on "s" then
        after t (if on "d" then "Two strings must be given when both deleting and squeezing repeats."
          else "Two strings must be given when translating.")
      else go c options t none translates
    | [t, u] =>
      if on "d" && !on "s" then
        c.misuse 1 (say "extra operand " ++ c.quote u ++
          say "\nOnly one string may be given when deleting without squeezing repeats.")
      else go c options t (some u) translates
    | _ :: _ :: t :: _ => c.misuse 1 (say "extra operand " ++ c.quote t)
where
  /-- Goes on with one or two lists. -/
  go (c : Call) (options : List Setting) (t : Text) (u : Option Text) (translates : Bool) : Effect :=
    let on (k : String) : Bool := isSet options k
    let complement := on "c" || on "C"
    let loose (t : Text) : Bool :=
      ((t.reverse.takeWhile (· = '\\')).length) % 2 = 1
    let warnings : Effect := ⟨c.disk, if loose t || u.any loose then
      [(true, c.name ++ say ": warning: an unescaped backslash at end of string is not portable\n")]
      else [], 0, none, false⟩
    warnings.andThen fun _ =>
    match ListPart.read c t, (u.map (ListPart.read c)).getD (.ok []) with
    | .error message, _ => c.refuse 1 message
    | _, .error message => c.refuse 1 message
    | .ok first, .ok second =>
      let listed := first.flatMap ListPart.members
      let inFirst := if complement then ListPart.everything.filter (· ∉ listed) else listed
      if ListPart.fills first then
        c.refuse 1 (say "the [c*] repeat construct may not appear in string1")
      else if translates then
        let isOdd := second.any fun p =>
          match p with
          | .named name _ => name ≠ "upper" && name ≠ "lower"
          | _ => false
        let target := ListPart.filled inFirst.length second
        let firstCases := ListPart.caseSets first
        let misaligned := (ListPart.caseSets second).any fun s =>
          !(firstCases.any fun f => f.1 = s.1)
        if isOdd then
          c.refuse 1 (say "when translating, the only character classes that may appear in\nstring2 are 'upper' and 'lower'")
        else if misaligned then
          c.refuse 1 (say "misaligned [:upper:] and/or [:lower:] construct")
        else if target = [] && !on "t" then
          c.refuse 1 (say "when not truncating set1, string2 must be non-empty")
        else
          let source := if on "t" then inFirst.take target.length else inFirst
          let table := translation source target
          let out := c.input.map fun x => (table[x.toNat]?).getD x
          (c.ok (if on "s" then squeeze (· ∈ target) none out else out)).usingInput
      else
        let isFirst := (ListPart.everything.map fun x => decide (x ∈ inFirst)).toArray
        let holds (x : Char) : Bool := (isFirst[x.toNat]?).getD false
        let kept := if on "d" then c.input.filter fun x => !holds x else c.input
        let squeezed := if on "d" then second.flatMap ListPart.members else inFirst
        let isSqueezed := (ListPart.everything.map fun x => decide (x ∈ squeezed)).toArray
        let doubles (x : Char) : Bool := (isSqueezed[x.toNat]?).getD false
        (c.ok (if on "s" then squeeze doubles none kept else kept)).usingInput

end Utility
end Shell
end IconAssets
