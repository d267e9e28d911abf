import IconAssets.Path

/-!
# Names in a catalog

The names of the directories and files that a catalog is made of, and of the directories that
stand beside it.
-/

namespace IconAssets
namespace Catalog

/-- The directory of a catalog inside the output directory. -/
def directoryName : Text := "GeneratedIcons.xcassets".toList

/-- The directory of the compiled catalog inside the output directory. -/
def bundleName : Text := "GeneratedIcons.bundle".toList

/-- The catalog that was there before, while it is being replaced. -/
def previousName : Text := '.' :: directoryName ++ ".previous".toList

/-- The document in each directory of a catalog. -/
def contentsName : Text := "Contents.json".toList

/-- The directory of an image set inside a catalog. -/
def imagesetName (assetName : Text) : Text := assetName ++ ".imageset".toList

/-- How the names of directories start in which a catalog is put together. -/
def stagingStem : Text := ".GeneratedIcons-".toList

/-- The directory with a given number in which a catalog is put together. -/
def stagingName (n : Nat) : Text :=
  let digits := Text.ofNat n
  stagingStem ++ List.replicate (6 - digits.length) '0' ++ digits

end Catalog
end IconAssets
