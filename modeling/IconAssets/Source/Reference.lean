import IconAssets.Icon.Modifier
import IconAssets.Source.Comment
import IconAssets.Text.Basic

/-!
# Icon references of a source text

A call site is a part of a line such as `Image("ph.house")` or `Image(icon: "ion.home")`: the
word `Image`, a parenthesis, an optional label, and a quoted name that starts with a provider
code and a dot.  Blank characters may stand between the parts.  `callSite?` reads the call site
at the start of a text; `callSites` lists the names of the call sites of a line from left to
right, each search going on behind the call site before.

The references of a source text are the names at its call sites outside comments, each once and
in the order of the first call site.  A call site does not go over a line's end.
-/

namespace IconAssets
namespace Source

/-- The text behind a word it starts with. -/
def behind? (word t : Text) : Option Text :=
  if word.isPrefixOf t then some (t.drop word.length) else none

/-- The characters of quoted names: ASCII lower-case letters, digits, dots and hyphens. -/
def isNameChar (c : Char) : Bool := c.isLower || c.isDigit || c = '.' || c = '-'

/-- Whether a text of name characters starts with a provider code and a dot, with at least one
character behind them. -/
def isIconName (t : Text) : Bool :=
  Provider.all.any fun p =>
    (p.code ++ ['.']).isPrefixOf t && p.code.length + 1 < t.length

/-- The text behind the optional label and its blanks.  A label without colon is no call
site. -/
def behindLabel? (t : Text) : Option Text :=
  match behind? "icon".toList t with
  | none => some t
  | some t => (behind? [':'] (Text.skipBlanks t)).map Text.skipBlanks

/-- The name at the call site that a text starts with, and the text behind the call site. -/
def callSite? (t : Text) : Option (Text × Text) := do
  let t ← behind? "Image".toList t
  let t ← behind? ['('] (Text.skipBlanks t)
  let t ← behindLabel? (Text.skipBlanks t)
  let t ← behind? ['"'] t
  let name := t.takeWhile isNameChar
  let t ← behind? ['"'] (t.dropWhile isNameChar)
  let t ← behind? [')'] (Text.skipBlanks t)
  if isIconName name then some (name, t) else none

/-- The names of the call sites of a text; its first `skip` characters belong to a call site
already listed. -/
def callSitesFrom : Nat → Text → List Text
  | _, [] => []
  | skip + 1, _ :: cs => callSitesFrom skip cs
  | 0, c :: cs =>
    match callSite? (c :: cs) with
    | some (name, rest) => name :: callSitesFrom (cs.length - rest.length) cs
    | none => callSitesFrom 0 cs

/-- The names at the call sites of a line, from left to right. -/
def callSites (line : Text) : List Text := callSitesFrom 0 line

/-- The names at all call sites of a source text, in order. -/
def calledNames (source : Text) : List Text :=
  (Text.pieces '\n' (stripComments source)).flatMap callSites

/-- The icon references of a source text. -/
def references (source : Text) : List Text := firstOccurrences (calledNames source)

end Source
end IconAssets
