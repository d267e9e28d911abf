import IconAssets.Disk.Walk
import IconAssets.Icon.Identifier
import IconAssets.Path

/-!
# Where source images lie

Each provider's images lie below one root directory.  Phosphor has a directory for each weight,
with the weight repeated in the file name unless it is the default; Ionicons has all files in
the root itself, with the variant in the file name unless it is the default.
-/

namespace IconAssets

/-- The directories that hold the providers' images; a provider may have none. -/
structure Roots where
  phosphor : Option Path
  ionicons : Option Path
  deriving DecidableEq, Repr

namespace Roots

/-- No provider has a directory. -/
def none : Roots := ⟨.none, .none⟩

/-- The directory of a provider. -/
def of (roots : Roots) : Provider → Option Path
  | .phosphor => roots.phosphor
  | .ionicons => roots.ionicons

end Roots

namespace Image

/-- The file name of an icon's image. -/
def fileName (icon : Identifier) : Text :=
  icon.fileStem ++ (if icon.modifier.isDefault then [] else '-' :: icon.modifier.name) ++
    ".svg".toList

/-- The path of an icon's image below a root directory. -/
def below (root : Path) (icon : Identifier) : Path :=
  match icon.modifier with
  | .weight w => (root.child w.name).child (fileName icon)
  | .variant _ => root.child (fileName icon)

/-- The path of an icon's image, if its provider has a root directory. -/
def path? (roots : Roots) (icon : Identifier) : Option Path :=
  (roots.of icon.provider).map fun root => below root icon

/-- The path of the image of a spelled identifier. -/
def pathOf? (roots : Roots) (raw : Text) : Option Path :=
  (Identifier.parse raw).bind (path? roots)

end Image

/-!
## Usable icons

An icon is usable if its source image is a file.
-/

/-- Icons with and without a source image. -/
structure Validation where
  valid : List Text
  invalid : List Text
  deriving DecidableEq, Repr

namespace Image

/-- Whether a spelled icon has a source image. -/
def isUsable (d : Disk) (roots : Roots) (raw : Text) : Bool :=
  match pathOf? roots raw with
  | none => false
  | some path => d.isFile path

/-- Tells the icons with a source image from those without one. -/
def validate (d : Disk) (roots : Roots) (icons : List Text) : Validation :=
  ⟨icons.filter (isUsable d roots), icons.filter fun raw => !isUsable d roots raw⟩

end Image

end IconAssets
