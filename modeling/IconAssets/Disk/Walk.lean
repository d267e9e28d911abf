import IconAssets.Disk.Basic
import IconAssets.Path

/-!
# Following paths

A path is followed piece by piece: an idle piece stays, two dots go up, and any other piece goes to
the object of that name.  Only folders can be left, so a slash behind a file leads nowhere.

An object that is to be made is located by the folder it will be in and its name.
-/

namespace IconAssets
namespace Disk

/-- Why something on a disk cannot be done. -/
inductive Fault where
  /-- No object is there. -/
  | missing
  /-- An object is there already. -/
  | taken
  /-- A folder was needed. -/
  | notFolder
  /-- A folder is in the place of a file. -/
  | isFolder
  /-- The object may not be used in this way. -/
  | denied
  /-- A name or a path is too long. -/
  | nameTooLong
  /-- A path holds the character NUL. -/
  | nulInPath
  /-- An argument of a program holds the character NUL. -/
  | nulInArgument
  /-- A file is not UTF-8. -/
  | notText
  /-- A program is not in a form that can be run. -/
  | notRunnable
  /-- Too many programs are run by each other. -/
  | tooManyLinks
  /-- The arguments of a program take too much room. -/
  | argumentsTooLong
  /-- Nothing more can be written. -/
  | noRoom
  /-- A device is not there. -/
  | noDevice
  deriving DecidableEq, Repr

/-- The words for a fault. -/
def Fault.message : Fault → String
  | .missing => "No such file or directory (os error 2)"
  | .taken => "File exists (os error 17)"
  | .notFolder => "Not a directory (os error 20)"
  | .isFolder => "Is a directory (os error 21)"
  | .denied => "Permission denied (os error 13)"
  | .nameTooLong => "File name too long (os error 36)"
  | .nulInPath => "file name contained an unexpected NUL byte"
  | .nulInArgument => "nul byte found in provided data"
  | .notText => "stream did not contain valid UTF-8"
  | .notRunnable => "Exec format error (os error 8)"
  | .tooManyLinks => "Too many levels of symbolic links (os error 40)"
  | .argumentsTooLong => "Argument list too long (os error 7)"
  | .noRoom => "No space left on device (os error 28)"
  | .noDevice => "No such device or address (os error 6)"

/-- The greatest number of bytes in a name. -/
def maxNameLength : Nat := 255

/-- Whether a name is too long. -/
def isTooLong (name : Text) : Bool := maxNameLength < Text.byteLength name

/-- Whether a piece of a path goes up. -/
def isUp (piece : Text) : Bool := piece = ['.', '.']

/-- Goes one piece on from a place. -/
def step (d : Disk) (here : Place) (piece : Text) : Except Fault Place :=
  if d.lookup here ≠ some .folder then .error .notFolder
  else if Path.isIdle piece then .ok here
  else if isUp piece then .ok here.dropLast
  else if isTooLong piece then .error .nameTooLong
  else
    match d.lookup (here ++ [piece]) with
    | none => .error .missing
    | some _ => .ok (here ++ [piece])

/-- Goes on from a place, piece by piece. -/
def walk (d : Disk) : Place → List Text → Except Fault Place
  | here, [] => .ok here
  | here, piece :: pieces =>
    match d.step here piece with
    | .error e => .error e
    | .ok next => walk d next pieces

/-- The place one piece on, if all that is needed is there. -/
def turn (here : Place) (piece : Text) : Place :=
  if Path.isIdle piece then here
  else if isUp piece then here.dropLast
  else here ++ [piece]

/-- The place that pieces lead to if all that is needed is there. -/
def travel (here : Place) (pieces : List Text) : Place := pieces.foldl turn here

/-- The working folder, as its path tells it. -/
def home (d : Disk) : Place := travel [] (Text.pieces '/' (Text.glue '/' d.working))

/-- The place where a path starts. -/
def start (d : Disk) (p : Path) : Place := if p.isAbsolute then [] else d.home

/-- The place that a path leads to; the empty path stays where it starts. -/
def follow (d : Disk) (p : Path) : Except Fault Place :=
  d.walk (d.start p) (Text.pieces '/' p.text)

/-- The greatest number of bytes in a path. -/
def maxPathLength : Nat := 4095

/-- Whether a path is too long to be followed, wherever it may lead. -/
def isPathTooLong (p : Path) : Bool := maxPathLength < Text.byteLength p.text

/-- What is wrong with the text of a path. -/
def textFault? (p : Path) : Option Fault :=
  if '\x00' ∈ p.text then some .nulInPath
  else if p.text = [] then some .missing
  else if isPathTooLong p then some .nameTooLong
  else none

/-- The place of the object that a path names. -/
def resolve (d : Disk) (p : Path) : Except Fault Place :=
  match textFault? p with
  | some e => .error e
  | none => d.follow p

/-- Where an object is to be made. -/
structure Spot where
  /-- The folder it will be in. -/
  folder : Place
  /-- Its name; none where the path ends in a piece that names no new object. -/
  name : Option Text
  /-- Whether the path goes on with a slash behind the name. -/
  slash : Bool
  deriving DecidableEq, Repr

/-- Locates the object that a path is to make. -/
def locate (d : Disk) (p : Path) : Except Fault Spot :=
  match textFault? p with
  | some e => .error e
  | none =>
    let reversed := (Text.pieces '/' p.text).reverse
    let slash := reversed.head? = some []
    match reversed.dropWhile (· = []) with
    | [] => .ok ⟨[], none, slash⟩
    | last :: before =>
      match d.walk (d.start p) before.reverse with
      | .error e => .error e
      | .ok folder =>
        if d.lookup folder ≠ some .folder then .error .notFolder
        else if Path.isIdle last || isUp last then .ok ⟨folder, none, slash⟩
        else .ok ⟨folder, some last, slash⟩

/-- The object that a path names. -/
def find? (d : Disk) (p : Path) : Option Object :=
  match d.resolve p with
  | .error _ => none
  | .ok place => d.lookup place

/-- Whether a path names an object. -/
def hasObject (d : Disk) (p : Path) : Bool := (d.find? p).isSome

/-- Whether a path names a folder. -/
def isFolder (d : Disk) (p : Path) : Bool := d.find? p = some .folder

/-- Whether a path names a file. -/
def isFile (d : Disk) (p : Path) : Bool :=
  match d.find? p with
  | some (.file _ _) => true
  | _ => false

/-- A path from the root folder that leads where a path leads. -/
def absolute (d : Disk) (p : Path) : Path := (Path.mk ('/' :: Text.glue '/' d.working)).join p

end Disk

end IconAssets
