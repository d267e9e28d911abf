import IconAssets.Catalog.Contents
import IconAssets.Image.Outline
import IconAssets.Image.Location
import IconAssets.World

/-!
# Writing catalogs

A catalog is put together in a directory of its own beside its final place and moved there when it
is complete; the catalog that was there before is set aside first and removed last.  Whatever goes
wrong before that leaves the old catalog alone and removes the new one.

Each icon gets one image set: a directory with its image and a contents document.  Icons that
cannot be found are passed over, and so are icons whose image set has been written already.
-/

namespace IconAssets
namespace Catalog

/-- An image set of a catalog. -/
structure Entry where
  assetName : Text
  directory : Path
  filename : Text
  deriving DecidableEq, Repr

/-- A catalog that has been written. -/
structure Generated where
  path : Path
  entries : List Entry
  deriving DecidableEq, Repr

/-- The first number from `n` on whose staging name is not to be avoided; at most `room` numbers
are tried. -/
def freshNumber (avoid : List Text) : Nat → Nat → Nat
  | 0, n => n
  | room + 1, n => if stagingName n ∈ avoid then freshNumber avoid room (n + 1) else n

/-- A staging name that is not to be avoided. -/
def freshName (avoid : List Text) : Text := stagingName (freshNumber avoid (avoid.length + 1) 0)

/-- The names in the directory that a path leads to. -/
def namesIn (d : Disk) (p : Path) : List Text :=
  match d.follow p with
  | .ok place => d.children place
  | .error _ => []

/-- The texts that say where a catalog and its images lie. -/
def textsInUse (d : Disk) (roots : Roots) (output : Path) (icons : List Text) : List Text :=
  Text.glue '/' d.working ::
    (output :: (roots.phosphor.toList ++ roots.ionicons.toList)).map (·.text) ++ icons

/-- The names that a staging directory must not have: those in the output directory, and those that
the paths of the run go by. -/
def namesInUse (d : Disk) (roots : Roots) (output : Path) (icons : List Text) : List Text :=
  namesIn d (d.absolute output) ++
    (textsInUse d roots output icons).flatMap (Text.pieces '/')

/-- The image of an icon as it goes into a catalog. -/
def imageData (icon : Identifier) (data : Bytes) : Bytes :=
  if icon.isOutline then Image.tintBytes data else data

/-- Writes a contents document. -/
def writeContents (path : Path) (document : Text) : Run Unit :=
  Run.change (.writing path) fun d => d.writeFile path (Utf8.encode document)

/-- Writes the image set of an icon. -/
def writeEntry (staging catalog : Path) (icon : Identifier) (source : Path) : Run Entry := do
  match source.fileName? with
  | none => Run.fail ⟨[], .namelessSource source⟩
  | some filename =>
    let name := imagesetName icon.assetName
    let directory := staging.child name
    Run.makeFolders (.creating directory) directory
    let data ← Run.read (.readingImage source) fun d => d.readFile source
    Run.change (.writingImage icon.assetName) fun d =>
      d.writeFile (directory.child filename) (imageData icon data)
    writeContents (directory.child contentsName) (EntryContents.templateImage filename).print
    return ⟨icon.assetName, catalog.child name, filename⟩

/-- Writes the image sets of icons; those of the assets in `written` are there already. -/
def writeEntries (roots : Roots) (staging catalog : Path) : List Text → List Text → Run (List Entry)
  | _, [] => return []
  | written, raw :: icons => do
    match Identifier.parse raw with
    | none =>
      Run.report (.iconUnparseable raw)
      writeEntries roots staging catalog written icons
    | some icon =>
      match Image.path? roots icon with
      | none =>
        Run.report (.iconUnmapped raw)
        writeEntries roots staging catalog written icons
      | some source =>
        if icon.assetName ∈ written then
          Run.report (.iconRepeated raw icon.assetName)
          writeEntries roots staging catalog written icons
        else
          let entry ← writeEntry staging catalog icon source
          let entries ← writeEntries roots staging catalog (icon.assetName :: written) icons
          return entry :: entries

/-- Puts a catalog together. -/
def writeAll (roots : Roots) (staging catalog : Path) (icons : List Text) : Run (List Entry) := do
  let entries ← writeEntries roots staging catalog [] icons
  writeContents (staging.child contentsName) RootContents.standard.print
  return entries

/-- Removes a directory if that can be done. -/
def discard (directory : Path) : Run Unit := do
  match (← Run.disk).removeFolder directory with
  | .ok d => modify fun w => { w with disk := d }
  | .error _ => return

/-- Where the catalog is while another one takes its place. -/
def previousPath (catalog : Path) : Path := catalog.withFileName previousName

/-- Removes the catalog that has been replaced.  If it stays, this is no failure. -/
def removePrevious (previous : Path) : Run Unit := do
  match (← Run.disk).removeFolder previous with
  | .ok d => modify fun w => { w with disk := d }
  | .error e => Run.report (.previousKept previous e)

/-- Puts back the catalog that has been set aside, and drops the one that was to replace it. -/
def putBack (staging catalog previous : Path) : Run Unit := do
  match (← Run.disk).rename previous catalog with
  | .ok d => modify fun w => { w with disk := d }
  | .error e => Run.report (.previousNotRestored previous e)
  discard staging

/-- Moves a complete catalog to its place. -/
def swapIntoPlace (staging catalog : Path) : Run Unit := do
  if (← Run.disk).hasObject catalog then
    let previous := previousPath catalog
    if (← Run.disk).hasObject previous then
      Run.change (.removingStale previous) fun d => d.removeFolder previous
    Run.change (.settingAside catalog) fun d => d.rename catalog previous
    Run.onFailure (Run.change (.moving catalog) fun d => d.rename staging catalog)
      (putBack staging catalog previous)
    removePrevious previous
  else
    Run.change (.moving catalog) fun d => d.rename staging catalog

/-- Makes an empty directory for putting a catalog together. -/
def makeStaging (roots : Roots) (output : Path) (icons : List Text) : Run Path := do
  let d ← Run.disk
  let staging := (d.absolute output).child (freshName (namesInUse d roots output icons))
  match d.makeFolder staging with
  | .error e => Run.fail ⟨[.creatingStaging output], .diskAt e staging⟩
  | .ok d =>
    modify fun w => { w with disk := d }
    return staging

/-- Writes the catalog of the icons into an output directory. -/
def generate (icons : List Text) (roots : Roots) (output : Path) : Run Generated := do
  Run.makeFolders (.creatingOutput output) output
  let staging ← makeStaging roots output icons
  let catalog := output.child directoryName
  let entries ← Run.onFailure (writeAll roots staging catalog icons) (discard staging)
  swapIntoPlace staging catalog
  Run.report (.catalogWritten entries.length catalog)
  return ⟨catalog, entries⟩

end Catalog
end IconAssets
