import IconAssets.Json.Record
import IconAssets.Image.Location

/-!
# Configurations

A configuration names the directories of the providers' images.  A relative directory counts from
the directory of the configuration's own file, and an empty name counts as none.

Where a configuration names no directory, a resources directory with a fixed directory for each
provider may stand in.
-/

namespace IconAssets

/-- A configuration. -/
structure Config where
  phosphorPath : Option Text
  ioniconsPath : Option Text
  /-- The directory that relative paths count from, if there is one. -/
  base : Option Path
  deriving DecidableEq, Repr

namespace Config

def phosphorKey : Text := "phosphorPath".toList

def ioniconsKey : Text := "ioniconsPath".toList

/-- How a configuration is read. -/
def shape : Json.Shape Config where
  name := "Config".toList
  blank := ⟨none, none, none⟩
  fields :=
    [⟨phosphorKey, false,
       fun c t => (Json.readTextOrNull t).map fun r => ({ c with phosphorPath := r.1 }, r.2)⟩,
     ⟨ioniconsKey, false,
       fun c t => (Json.readTextOrNull t).map fun r => ({ c with ioniconsPath := r.1 }, r.2)⟩]

/-- Reads a configuration; its relative paths stay as they are. -/
def parse (t : Text) : Except Json.Fault Config := shape.parse t

/-- The configuration as the content of a file. -/
def inFile (c : Config) (file : Path) : Config := { c with base := file.parent? }

/-- The directory that a text of the configuration names. -/
def directory? (c : Config) (name : Option Text) : Option Path :=
  match name with
  | none => none
  | some name =>
    if name = [] then none
    else
      match c.base with
      | some base => some (base.child name)
      | none => some ⟨name⟩

/-- The directory of the Phosphor images. -/
def phosphorRoot (c : Config) : Option Path := c.directory? c.phosphorPath

/-- The directory of the Ionicons images. -/
def ioniconsRoot (c : Config) : Option Path := c.directory? c.ioniconsPath

end Config

namespace Roots

/-- The directories inside a resources directory. -/
def ofResources (resources : Path) : Roots :=
  ⟨some (resources.child "phosphor".toList), some (resources.child "ionicons".toList)⟩

/-- The directories of the providers: those of the configuration, else those of the resources
directory. -/
def resolve (config : Option Config) (resources : Option Path) : Roots :=
  let fallback := (resources.map ofResources).getD .none
  ⟨(config.bind Config.phosphorRoot).or fallback.phosphor,
    (config.bind Config.ioniconsRoot).or fallback.ionicons⟩

end Roots

end IconAssets
