import IconAssets.Catalog.Contents
import IconAssets.Config
import IconAssets.World

/-!
# Documents on the disk

Reading configurations, manifests and contents documents from files, and writing manifests.  A
failure tells which file it is about.
-/

namespace IconAssets

/-- Reads a text file during a step and then makes something of it. -/
def Disk.load {α : Type} (d : Disk) (p : Path) (s : Step) (parse : Text → Except Failure α) :
    Except Failure α :=
  match d.readText p with
  | .error e => .error (e.during s)
  | .ok t => parse t

/-- The configuration in a file. -/
def Config.load (d : Disk) (p : Path) : Except Failure Config :=
  d.load p (.readingConfig p) fun t =>
    match Config.parse t with
    | .error e => .error ⟨[.parsingConfig p], .json e⟩
    | .ok c => .ok (c.inFile p)

/-- The contents document in a file. -/
def Catalog.EntryContents.load (d : Disk) (p : Path) : Except Failure EntryContents :=
  d.load p (.reading p) fun t =>
    match EntryContents.parse t with
    | .error e => .error ⟨[.parsing p], .json e⟩
    | .ok c => .ok c

namespace Manifest

/-- The icons of the manifest in a file. -/
def load (d : Disk) (p : Path) : Except Failure (List Text) :=
  d.load p (.readingManifest p) fun t =>
    match parse t with
    | .error e => .error ⟨[.loadingManifest p], .manifest e⟩
    | .ok icons => .ok icons

/-- Writes a manifest to a file, whose missing parents are made. -/
def write (icons : List Text) (p : Path) : Run Unit := do
  match p.parent? with
  | none => pure ()
  | some parent => if parent.text = [] then pure () else Run.makeFolders (.creating parent) parent
  Run.change (.writingManifest p) fun d => d.writeFile p (Utf8.encode (print icons))

end Manifest

end IconAssets
