import IconAssets.Log.Event
import IconAssets.Source.Reference

/-!
# Icon references of a source tree

A tree is scanned file by file, each folder in the order of its names.  Only files with the
extension of the source language count, and nothing below the root whose name starts with a dot.
A file that is not UTF-8, and what has too long a path, is left out.  The root may itself be a file.
-/

namespace IconAssets
namespace Source

/-- The extension of source files. -/
def extension : Text := "swift".toList

/-- Whether a name hides what it names. -/
def isHidden (name : Text) : Bool := name.head? = some '.'

/-- The path of an object below a root, by the names on the way to it. -/
def pathBelow (root : Path) (names : List Text) : Path := names.foldl Path.child root

/-- What a scan comes across. -/
inductive Sight where
  | file (path : Path) (data : Bytes)
  /-- A folder whose path is too long. -/
  | outOfReach (folder : Path)

/-- What is at and below a root, in the order of the scan. -/
def sights (d : Disk) (root : Path) : List Sight :=
  match d.resolve root with
  | .error _ => []
  | .ok place =>
    match d.lookup place with
    | none | some (.device _) => []
    | some (.file data _) => [.file root data]
    | some .folder =>
      (d.below (fun name => !isHidden name) place).filterMap fun e =>
        let path := pathBelow root e.1
        if Disk.isPathTooLong (pathBelow root e.1.dropLast) then none
        else
          match e.2 with
          | .folder => if Disk.isPathTooLong path then some (.outOfReach path) else none
          | .file data _ => some (.file path data)
          | .device _ => none

/-- Whether a scan stops at something: all but the files that are no source files. -/
def Sight.counts : Sight → Bool
  | .file path _ => path.extension? = some extension
  | .outOfReach _ => true

/-- The source text of a file, or why it cannot be read. -/
def textOf (path : Path) (data : Bytes) : Except Disk.Fault Text :=
  if Disk.isPathTooLong path then .error .nameTooLong
  else
    match Utf8.decode data with
    | none => .error .notText
    | some source => .ok source

/-- Adds the references of files to those found before, and reports each file. -/
def scanSights (root : Path) (found : List Text) : List Sight → List Text × List Event
  | [] => (found, [])
  | .outOfReach folder :: more =>
    let r := scanSights root found more
    (r.1, .folderSkipped root folder .nameTooLong :: r.2)
  | .file path data :: more =>
    match textOf path data with
    | .error fault =>
      let r := scanSights root found more
      (r.1, .fileSkipped path fault :: r.2)
    | .ok source =>
      let fresh := (references source).filter fun name => !(name ∈ found)
      let r := scanSights root (found ++ fresh) more
      (r.1, .fileScanned path fresh.length :: r.2)

/-- The icon references of a source tree, each once, and what is reported about the scan. -/
def scanTree (d : Disk) (root : Path) : List Text × List Event :=
  if d.hasObject root then scanSights root [] ((sights d root).filter Sight.counts)
  else ([], [.sourceMissing root])

end Source
end IconAssets
