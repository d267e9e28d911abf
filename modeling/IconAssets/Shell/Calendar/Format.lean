import IconAssets.Shell.Calendar.Reader
import IconAssets.Shell.Expression

/-!
# Writing moments

A format is a text with directives.  A directive is a percent sign, flags, a width and a letter; it
stands for a part of a moment, which is filled up to its width from the left.  What is no directive
stands for itself.  All moments are those of the middle zone.
-/

namespace IconAssets
namespace Shell

/-- How a part of a moment is written. -/
structure MomentStyle where
  /-- The flag for what fills the width; a hyphen if nothing does. -/
  filler : Option Char
  /-- Whether letters are capital. -/
  upper : Bool
  /-- Whether letters are capital or not against the usage. -/
  turned : Bool
  width : Option Nat

namespace MomentStyle

/-- The style without flags. -/
def plain : MomentStyle := ⟨none, false, false, none⟩

/-- The style with a flag. -/
def flagged (s : MomentStyle) (flag : Char) : MomentStyle :=
  match flag with
  | '^' => { s with upper := true }
  | '#' => { s with turned := true }
  | c => { s with filler := some c }

/-- What fills the width in front of a text: zeros or blanks by the flag, or as usual. -/
def filling (s : MomentStyle) (usual : Char) (length width : Nat) : Text :=
  match s.filler with
  | some '-' => []
  | some '_' => List.replicate (width - length) ' '
  | some _ => List.replicate (width - length) '0'
  | none => List.replicate (width - length) usual

/-- Words. -/
def words (s : MomentStyle) (t : Text) : Text :=
  s.filling ' ' t.length (s.width.getD 0) ++ if s.upper then t.map Char.toUpper else t

/-- A name, of which a flag makes all letters capital. -/
def name (s : MomentStyle) (t : Text) : Text := ({ s with upper := s.upper || s.turned }).words t

/-- A number with at least some digits, and what they are filled up with as usual. -/
def numberWith (usual : Char) (digits : Nat) (s : MomentStyle) (value : Int) : Text :=
  let shown := Text.ofNat value.natAbs
  let sign : Text := if value < 0 then ['-'] else if s.filler = some '+' &&
    (if digits = 2 then 99 else 9999) < value then ['+'] else []
  let length := shown.length + sign.length
  let fill := s.filling usual length (s.width.getD digits)
  if fill.head? = some ' ' then fill ++ sign ++ shown else sign ++ fill ++ shown

/-- A number with at least some digits. -/
def number (digits : Nat) (s : MomentStyle) (value : Int) : Text := numberWith '0' digits s value

/-- The nanoseconds, to as many digits as the width says. -/
def fraction (s : MomentStyle) (value : Int) : Text :=
  let digits := Text.ofNat value.toNat
  let all := List.replicate (9 - digits.length) '0' ++ digits
  let width := match s.width with
    | some 0 | none => 9
    | some n => n
  let kept := ((all.take width).reverse.dropWhile (· = '0')).reverse
  let kept := if kept = [] then ['0'] else kept
  kept ++ (if s.width.isNone && s.filler = some '-' then { s with filler := none } else s).filling
    '0' kept.length width

end MomentStyle

namespace Moment

open MomentToken (months weekdays)

/-- A name with one capital letter. -/
def spelled (names : List String) (i : Int) : Text :=
  match (names[i.toNat]?).map String.toList with
  | some (c :: cs) => c :: cs.map Char.toLower
  | _ => ['?']

/-- The hour as it is told on a dial. -/
def dialHour (m : Moment) : Int := (m.hour + 11) % 12 + 1

/-- What a letter stands for that stands for one part. -/
def part? (m : Moment) (s : MomentStyle) (letter : Char) : Option Text :=
  let d := m.date
  match letter with
  | 'a' => some (s.name ((spelled weekdays d.weekday).take 3))
  | 'A' => some (s.name (spelled weekdays d.weekday))
  | 'b' | 'h' => some (s.name ((spelled months (d.month - 1)).take 3))
  | 'B' => some (s.name (spelled months (d.month - 1)))
  | 'C' => some (s.number 2 (d.year / 100))
  | 'd' => some (s.number 2 d.day)
  | 'e' => some (MomentStyle.numberWith ' ' 2 s d.day)
  | 'g' => some (s.number 2 (d.week.1 % 100))
  | 'G' => some (s.number 4 d.week.1)
  | 'H' => some (s.number 2 m.hour)
  | 'I' => some (s.number 2 m.dialHour)
  | 'j' => some (s.number 3 (d.ofYear + 1))
  | 'k' => some (MomentStyle.numberWith ' ' 2 s m.hour)
  | 'l' => some (MomentStyle.numberWith ' ' 2 s m.dialHour)
  | 'm' => some (s.number 2 d.month)
  | 'M' => some (s.number 2 m.minute)
  | 'n' => some (s.words ['\n'])
  | 'N' => some (s.fraction m.fraction)
  | 'p' =>
    let half := if m.hour < 12 then say "AM" else say "PM"
    some (if s.turned then { s with upper := false }.words (half.map Char.toLower) else s.words half)
  | 'P' => some ({ s with upper := false }.words (if m.hour < 12 then say "am" else say "pm"))
  | 'q' => some (s.number 1 ((d.month + 2) / 3))
  | 's' => some (s.number 1 m.seconds)
  | 'S' => some (s.number 2 m.second)
  | 't' => some (s.words ['\t'])
  | 'u' => some (s.number 1 ((d.weekday + 6) % 7 + 1))
  | 'U' => some (s.number 2 (d.weekFrom 0))
  | 'V' => some (s.number 2 d.week.2)
  | 'w' => some (s.number 1 d.weekday)
  | 'W' => some (s.number 2 (d.weekFrom 1))
  | 'y' => some (s.number 2 (d.year % 100))
  | 'Y' => some (s.number 4 d.year)
  | 'z' => some ('+' :: s.number 4 0)
  | 'Z' => some (if s.turned then { s with upper := false }.words (say "utc") else s.words (say "UTC"))
  | '%' => if s.width.isNone then some ['%'] else none
  | _ => none

/-- The formats that letters stand for. -/
def compounds : List (Char × String) :=
  [('c', "%a %b %e %H:%M:%S %Y"), ('D', "%m/%d/%y"), ('F', "%+4Y-%m-%d"), ('r', "%I:%M:%S %p"),
    ('R', "%H:%M"), ('T', "%H:%M:%S"), ('x', "%m/%d/%y"), ('X', "%H:%M:%S")]

/-- The difference of the middle zone from itself, by the number of colons in the directive. -/
def zoneWith : Nat → Option Text
  | 1 => some (say "+00:00")
  | 2 => some (say "+00:00:00")
  | 3 => some (say "+00")
  | _ => none

/-- A format with what a function gives for its directives. -/
def formatWith (tell : MomentStyle → Char → Option Text) : Nat → Text → Text
  | 0, _ => []
  | _ + 1, [] => []
  | fuel + 1, '%' :: t =>
    let flags := t.takeWhile fun c => c ∈ ['_', '-', '+', '0', '^', '#']
    let digits := (t.drop flags.length).takeWhile Char.isDigit
    let behind := t.drop (flags.length + digits.length)
    let modifier := behind.takeWhile fun c => c = 'E' || c = 'O'
    let style := { flags.foldl MomentStyle.flagged MomentStyle.plain with width := digits? digits }
    match behind.drop (min modifier.length 1) with
    | [] => style.words ('%' :: t)
    | ':' :: more =>
      let colons := (':' :: more).takeWhile (· = ':')
      let rest := more.drop (colons.length - 1)
      match if rest.head? = some 'z' then zoneWith colons.length else none with
      | some zone => style.words zone ++ formatWith tell fuel rest.tail
      | none => '%' :: formatWith tell fuel t
    | letter :: rest =>
      match tell style letter with
      | some text => text ++ formatWith tell fuel rest
      | none => style.words ('%' :: t.take (t.length - rest.length)) ++ formatWith tell fuel rest
  | fuel + 1, c :: t => c :: formatWith tell fuel t

/-- A moment as a format tells it. -/
def text (m : Moment) (format : Text) : Text :=
  let tell (s : MomentStyle) (letter : Char) : Option Text :=
    match compounds.lookup letter with
    | some f => some (s.words (formatWith m.part? (f.length + 1) f.toList))
    | none => m.part? s letter
  formatWith tell (format.length + 1) format

end Moment

end Shell
end IconAssets
