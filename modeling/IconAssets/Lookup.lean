import IconAssets.Catalog.Layout
import IconAssets.Document

/-!
# Looking up images

Images are looked up in a row of locations: the catalogs inside two directories, then the
directories themselves.  One of the two is the default location; the other is a hint of the caller,
for which the default stands in if there is none.

A store answers whether an image is at a location and loads it from there.  The first location
that has the image is the only one it is loaded from.  The calls made to the store are part of the
answer.
-/

namespace IconAssets
namespace Lookup

/-- An image that has been found. -/
structure Located where
  assetName : Text
  container : Path
  path : Path
  data : Bytes
  deriving DecidableEq, Repr

/-- Where images are kept. -/
structure Store where
  /-- Whether an asset is at a location. -/
  contains : Path → Text → Bool
  /-- The image of an asset at a location. -/
  load : Path → Text → Option Located

/-- A call made to a store. -/
inductive Call where
  | contains (location : Path) (assetName : Text) (answer : Bool)
  | load (location : Path) (assetName : Text)
  deriving DecidableEq, Repr

/-- The contents document of an asset at a location. -/
def contentsPath (location : Path) (assetName : Text) : Path :=
  (location.child (Catalog.imagesetName assetName)).child Catalog.contentsName

/-- The image that the contents document of an asset names. -/
def loadFrom (d : Disk) (location : Path) (assetName : Text) : Option Located :=
  match Catalog.EntryContents.load d (contentsPath location assetName) with
  | .error _ => none
  | .ok contents =>
    match contents.firstFilename? with
    | none => none
    | some filename =>
      let path := (location.child (Catalog.imagesetName assetName)).child filename
      match d.readFile path with
      | .error _ => none
      | .ok data => some ⟨assetName, location, path, data⟩

/-- The catalogs on a disk as a store: an asset is there if its contents document is. -/
def Store.ofDisk (d : Disk) : Store where
  contains location assetName := d.isFile (contentsPath location assetName)
  load := loadFrom d

/-- The locations for images, in the order in which they are tried, as far as they are folders. -/
def candidates (d : Disk) (default : Path) (hint : Option Path) : List Path :=
  let hint := hint.getD default
  [hint.child Catalog.directoryName, default.child Catalog.directoryName, hint, default].filter
    d.isFolder

/-- The first of several locations that has an asset, and the calls made to find it. -/
def probe (store : Store) (assetName : Text) : List Path → Option Path × List Call
  | [] => (none, [])
  | location :: locations =>
    if store.contains location assetName then
      (some location, [.contains location assetName true])
    else
      let r := probe store assetName locations
      (r.1, .contains location assetName false :: r.2)

/-- What a lookup comes to. -/
structure Answer where
  image : Option Located
  /-- The calls made to the store, in order. -/
  calls : List Call
  events : List Event

/-- Looks up the image of a spelled icon. -/
def resolve (d : Disk) (store : Store) (default : Path) (hint : Option Path) (raw : Text) : Answer :=
  match Identifier.parse raw with
  | none => ⟨none, [], []⟩
  | some icon =>
    let name := icon.assetName
    match probe store name (candidates d default hint) with
    | (some location, calls) =>
      ⟨store.load location name, calls ++ [.load location name], [.imageFound raw name location]⟩
    | (none, calls) => ⟨none, calls, [.imageNotFound raw name]⟩

/-- The default location of a process, which can be set once. -/
structure DefaultLocation where
  /-- The location that has been set. -/
  chosen : Option Path
  /-- The directory of the running program, which stands in for it. -/
  program : Path
  deriving DecidableEq, Repr

namespace DefaultLocation

/-- The default location. -/
def get (l : DefaultLocation) : Path := l.chosen.getD l.program

/-- Sets the default location, unless it has been set before. -/
def set? (l : DefaultLocation) (p : Path) : Option DefaultLocation :=
  match l.chosen with
  | none => some { l with chosen := some p }
  | some _ => none

end DefaultLocation

end Lookup
end IconAssets
