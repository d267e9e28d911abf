import IconAssets.Shell.Octet
import IconAssets.Text.Hidden

/-!
# Quoted texts in messages

Utilities quote the texts that their messages are about: some in the quotation marks of the
language, some in the way in which a shell reads them back.  Characters that cannot be shown are
escaped; which ones these are depends on whether the messages are for readers of UTF-8.
-/

namespace IconAssets
namespace Shell

/-- Whether a program with these variables writes for readers of UTF-8. -/
def usesUtf8 (vars : List (Text × Text)) : Bool :=
  let set := ["LC_ALL", "LC_CTYPE", "LANG"].filterMap fun n =>
    (vars.lookup n.toList).filter (· ≠ [])
  match set with
  | [] => false
  | value :: _ =>
    let charset := (value.dropWhile (· ≠ '.')).map Char.toLower
    charset = ".utf-8".toList || charset = ".utf8".toList

/-- A character of a text of octets: the octets that it takes, and the character that they spell
if there is one. -/
structure Spelled where
  octets : Text
  char : Option Char

/-- The characters that a text of octets spells. -/
def spelled (utf8 : Bool) (t : Text) : List Spelled :=
  if utf8 then go (t.length + 1) t else t.map fun c => ⟨[c], if c.toNat < 128 then some c else none⟩
where
  /-- The characters at the start of a text; each call takes one. -/
  go : Nat → Text → List Spelled
    | 0, _ => []
    | _ + 1, [] => []
    | fuel + 1, c :: t =>
      let size := if c.toNat < 0xc0 then 1 else if c.toNat < 0xe0 then 2
        else if c.toNat < 0xf0 then 3 else 4
      let octets := (c :: t).take size
      match Utf8.decode (toBytes octets) with
      | some [d] => ⟨octets, some d⟩ :: go fuel ((c :: t).drop size)
      | _ => ⟨[c], none⟩ :: go fuel t

/-- Whether a character can be shown. -/
def Spelled.isVisible (s : Spelled) : Bool :=
  match s.char with
  | some c => ' ' ≤ c && c ≠ '\x7f' && !Text.isHidden c
  | none => false

/-- The letter that a control character has behind a backslash. -/
def controlLetter? (c : Char) : Option Char :=
  [('\x07', 'a'), ('\x08', 'b'), ('\x0c', 'f'), ('\n', 'n'), ('\r', 'r'), ('\t', 't'),
    ('\x0b', 'v')].lookup c

/-- The octets of a character, each as a number in base eight behind a backslash. -/
def octalEscape (octets : Text) : Text :=
  octets.flatMap fun c =>
    ['\\', Nat.digitChar (c.toNat / 64), Nat.digitChar (c.toNat / 8 % 8), Nat.digitChar (c.toNat % 8)]

/-- An escape for a character that cannot be shown. -/
def escaped (s : Spelled) : Text :=
  match s.octets with
  | [c] =>
    match controlLetter? c with
    | some letter => ['\\', letter]
    | none => octalEscape s.octets
  | octets => octalEscape octets

/-- A text in the quotation marks of the language. -/
def quoteFor (utf8 : Bool) (t : Text) : Text :=
  let left := if utf8 then say "‘" else ['\'']
  let right := if utf8 then say "’" else ['\'']
  left ++ ((spelled utf8 t).flatMap fun s =>
    if s.octets = ['\\'] then ['\\', '\\']
    else if s.octets = right then '\\' :: right
    else if s.isVisible then s.octets
    else escaped s) ++ right

/-- Whether a shell reads a character as itself, wherever it stands. -/
def isPlainForShell (c : Char) : Bool :=
  c.isAlphanum || c ∈ ['%', '+', ',', '-', '.', '/', ']', '_', ':', '@'] || 128 ≤ c.toNat

/-- A text in quotation marks as a shell reads them. -/
def quoteAlways (utf8 : Bool) (t : Text) : Text :=
  let cs := spelled utf8 t
  if cs.all Spelled.isVisible then
    if '\'' ∉ t then '\'' :: t ++ ['\'']
    else if t.all fun c => c ∉ ['"', '\\', '$', '\x60', '!'] then '"' :: t ++ ['"']
    else '\'' :: (t.flatMap fun c => if c = '\'' then "'\\''".toList else [c]) ++ ['\'']
  else
    let r := cs.foldl (fun (out, escapes) s =>
      if !s.isVisible then (out ++ (if escapes then [] else "'$'".toList) ++ escaped s, true)
      else if s.octets = ['\''] then (out ++ "'\\''".toList, false)
      else (out ++ (if escapes then ['\'', '\''] else []) ++ s.octets, false)) (['\''], false)
    r.1 ++ ['\'']

/-- A text in quotation marks as a shell reads them, if a shell needs them.  A colon counts as a
character that needs them. -/
def quoteIfOdd (utf8 : Bool) (t : Text) : Text :=
  let isOdd := t = [] || t.head? = some '#' || t.head? = some '~' || t = ['\x7b'] || t = ['\x7d'] ||
    t.any fun c => !(isPlainForShell c || c ∈ ['#', '~', '\x7b', '\x7d']) || c = ':'
  if isOdd || !(spelled utf8 t).all Spelled.isVisible then quoteAlways utf8 t else t

end Shell
end IconAssets
