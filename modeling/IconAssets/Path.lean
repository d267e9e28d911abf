import IconAssets.Text.Basic

/-!
# Paths

A path is kept as it was written: joining, cutting off the last component and naming a file work
on the text and never resolve or normalise it.

`anchor` and `steps` take a path apart.  The anchor is the leading slash of an absolute path, or
a leading `.` component; the steps are the pieces between the slashes behind it, with empty and
`.` steps where the text has them.
-/

namespace IconAssets

/-- A path, as its text. -/
structure Path where
  /-- The path as it was written. -/
  text : Text
  deriving DecidableEq, Repr

namespace Path

/-- The path a string spells. -/
def ofString (s : String) : Path := ⟨s.toList⟩

instance : ToString Path := ⟨fun p => String.ofList p.text⟩

/-- The path with no text. -/
def empty : Path := ⟨[]⟩

/-- Whether a path starts at the root directory. -/
def isAbsolute (p : Path) : Bool := p.text.head? = some '/'

/-- `q` below `p`: an absolute `q` stands for itself, and a slash is put in between where the
text of `p` does not end in one. -/
def join (p q : Path) : Path :=
  if q.isAbsolute then q
  else if p.text = [] then q
  else if p.text.getLast? = some '/' then ⟨p.text ++ q.text⟩
  else ⟨p.text ++ '/' :: q.text⟩

/-- A name below a path. -/
def child (p : Path) (name : Text) : Path := p.join ⟨name⟩

/-- The part of a path in front of its steps. -/
def anchor (p : Path) : Text :=
  match p.text with
  | '/' :: _ => ['/']
  | ['.'] => ['.']
  | '.' :: '/' :: _ => ['.']
  | _ => []

/-- The pieces between the slashes behind the anchor. -/
def steps (p : Path) : List Text := Text.pieces '/' (p.text.drop p.anchor.length)

/-- Whether a step leaves a walk where it is. -/
def isIdle (step : Text) : Bool := step = [] || step = ['.']

/-- The steps without idle ones at the end. -/
def dropIdleEnd (steps : List Text) : List Text :=
  (steps.reverse.dropWhile isIdle).reverse

/-- The path in front of the last component, with the idle steps at its end left out.  The root
directory and the empty path have none. -/
def parent? (p : Path) : Option Path :=
  match dropIdleEnd p.steps with
  | [] => if p.anchor = ['.'] then some empty else none
  | step :: steps =>
    some ⟨p.anchor ++ Text.glue '/' (dropIdleEnd (step :: steps).dropLast)⟩

/-- The last component, if it is a name. -/
def fileName? (p : Path) : Option Text :=
  match (dropIdleEnd p.steps).getLast? with
  | none => none
  | some step => if step = ['.', '.'] then none else some step

/-- The path with its last component replaced by a name. -/
def withFileName (p : Path) (name : Text) : Path :=
  match p.fileName? with
  | none => p.child name
  | some _ => (p.parent?.getD p).child name

/-- What follows the last dot of a file name, unless that dot is its first character. -/
def extensionOf (name : Text) : Option Text :=
  match Text.pieces '.' name with
  | [] => none
  | [_] => none
  | [[], _] => none
  | ps => ps.getLast?

/-- The extension of the last component. -/
def extension? (p : Path) : Option Text := p.fileName?.bind extensionOf

end Path

end IconAssets
