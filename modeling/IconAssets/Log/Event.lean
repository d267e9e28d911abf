import IconAssets.Failure
import IconAssets.Platform.Resolve

/-!
# Events

What is reported while the program works.  Each event has a level and a part of the program that
reports it; both decide whether the event is shown.
-/

namespace IconAssets

/-- How much an event matters, the most important level first. -/
inductive Level where
  | error
  | warn
  | info
  | debug
  | trace
  deriving DecidableEq, Repr

namespace Level

/-- The place of a level in the order of importance, counted from one. -/
def rank : Level → Nat
  | .error => 1
  | .warn => 2
  | .info => 3
  | .debug => 4
  | .trace => 5

/-- The name of a level as it is shown. -/
def name : Level → String
  | .error => "ERROR"
  | .warn => "WARN"
  | .info => "INFO"
  | .debug => "DEBUG"
  | .trace => "TRACE"

end Level

/-- A part of the program that reports events. -/
inductive Reporter where
  | scanner
  | generator
  | pipeline
  | lookup
  | commandLine
  deriving DecidableEq, Repr

/-- The name of a part of the program, by which events can be chosen. -/
def Reporter.target : Reporter → String
  | .scanner => "icon_catalog::scanner"
  | .generator => "icon_catalog::catalog::generator"
  | .pipeline => "icon_catalog::pipeline"
  | .lookup => "icon_catalog::runtime"
  | .commandLine => "icon_catalog"

/-- Something worth reporting. -/
inductive Event where
  /-- There is nothing to scan. -/
  | sourceMissing (root : Path)
  /-- A folder of the source tree cannot be read. -/
  | folderSkipped (root folder : Path) (fault : Disk.Fault)
  /-- A source file has been scanned; so many of its references were new. -/
  | fileScanned (file : Path) (fresh : Nat)
  /-- A source file cannot be read. -/
  | fileSkipped (file : Path) (fault : Disk.Fault)
  /-- An icon has no identifier's form. -/
  | iconUnparseable (raw : Text)
  /-- The provider of an icon has no directory. -/
  | iconUnmapped (raw : Text)
  /-- An icon has the catalog entry of one before it. -/
  | iconRepeated (raw assetName : Text)
  /-- A catalog is complete. -/
  | catalogWritten (entries : Nat) (catalog : Path)
  /-- The catalog that was replaced cannot be removed. -/
  | previousKept (path : Path) (fault : Disk.Fault)
  /-- The catalog that was set aside cannot be put back. -/
  | previousNotRestored (path : Path) (fault : Disk.Fault)
  /-- A source tree has been scanned. -/
  | iconsFound (icons : Nat) (source : Path)
  /-- The configuration cannot be used. -/
  | configIgnored (failure : Failure)
  /-- A manifest has been written. -/
  | manifestWritten (icons : Nat) (path : Path)
  /-- An icon has no source image. -/
  | iconInvalid (raw : Text)
  /-- No icon has a source image. -/
  | nothingValid
  /-- A catalog is handed to the compiler. -/
  | compiling (target : Platform.Target)
  /-- The compiler has not compiled a catalog. -/
  | compilationFailed (catalog : Path) (diagnostics : Text)
  /-- An image lies at one of the locations. -/
  | imageFound (raw assetName : Text) (location : Path)
  /-- An image lies at none of the locations. -/
  | imageNotFound (raw assetName : Text)
  /-- A run ended without icons. -/
  | noReferences
  /-- A run ended without usable icons. -/
  | noneUsable (icons : Nat)
  /-- A run ended with a compiled catalog. -/
  | bundleCompiled (bundle : Path)
  /-- A run ended with a catalog that is not compiled. -/
  | catalogAvailable (catalog : Path)

namespace Event

/-- The level of an event. -/
def level : Event → Level
  | .sourceMissing _ | .folderSkipped _ _ _ | .fileSkipped _ _ | .iconUnparseable _
  | .iconUnmapped _ | .previousKept _ _ | .previousNotRestored _ _ | .configIgnored _ | .iconInvalid _
  | .compilationFailed _ _ => .warn
  | .fileScanned _ _ | .iconRepeated _ _ | .imageFound _ _ _ | .imageNotFound _ _ => .debug
  | .catalogWritten _ _ | .iconsFound _ _ | .manifestWritten _ _ | .nothingValid | .compiling _
  | .noReferences | .noneUsable _ | .bundleCompiled _ | .catalogAvailable _ => .info

/-- The part of the program that reports an event. -/
def reporter : Event → Reporter
  | .sourceMissing _ | .folderSkipped _ _ _ | .fileScanned _ _ | .fileSkipped _ _ => .scanner
  | .iconUnparseable _ | .iconUnmapped _ | .iconRepeated _ _ | .catalogWritten _ _
  | .previousKept _ _ | .previousNotRestored _ _ => .generator
  | .iconsFound _ _ | .configIgnored _ | .manifestWritten _ _ | .iconInvalid _ | .nothingValid
  | .compiling _ | .compilationFailed _ _ => .pipeline
  | .imageFound _ _ _ | .imageNotFound _ _ => .lookup
  | .noReferences | .noneUsable _ | .bundleCompiled _ | .catalogAvailable _ => .commandLine

/-- The words for an event. -/
def message : Event → String
  | .sourceMissing root => "source directory " ++ toString root ++ " does not exist"
  | .folderSkipped root folder fault =>
    "skipping unreadable entry under " ++ toString root ++ ": IO error for operation on " ++
      toString folder ++ ": " ++ fault.message
  | .fileScanned file n => toString file ++ ": " ++ toString n ++ " new icon reference(s)"
  | .fileSkipped file fault => "skipping " ++ toString file ++ ": " ++ fault.message
  | .iconUnparseable raw => "skipping unparseable icon identifier " ++ String.ofList raw
  | .iconUnmapped raw =>
    "skipping " ++ String.ofList raw ++ ": no resource root configured for its provider"
  | .iconRepeated raw name =>
    String.ofList raw ++ " resolves to already written asset " ++ String.ofList name
  | .catalogWritten n catalog => "wrote " ++ toString n ++ " icon(s) to " ++ toString catalog
  | .previousKept path fault =>
    "could not remove previous catalog " ++ toString path ++ ": " ++ fault.message
  | .previousNotRestored path fault =>
    "could not restore previous catalog from " ++ toString path ++ ": " ++ fault.message
  | .iconsFound n source =>
    "found " ++ toString n ++ " icon reference(s) under " ++ toString source
  | .configIgnored failure => "ignoring config: " ++ failure.message
  | .manifestWritten n path => "wrote " ++ toString n ++ " icon reference(s) to " ++ toString path
  | .iconInvalid raw => "invalid icon name or missing source file: " ++ String.ofList raw
  | .nothingValid => "no valid icons; skipping catalog generation"
  | .compiling target => "compiling catalog for " ++ String.ofList target.display
  | .compilationFailed catalog diagnostics =>
    "catalog compilation failed; keeping uncompiled catalog at " ++ toString catalog ++ ": " ++
      String.ofList (Text.trim diagnostics)
  | .imageFound raw name location =>
    String.ofList raw ++ " found as " ++ String.ofList name ++ " in " ++ toString location
  | .imageNotFound raw name =>
    String.ofList raw ++ " (" ++ String.ofList name ++ ") not found in any candidate location"
  | .noReferences => "no icon references found"
  | .noneUsable n => "none of " ++ toString n ++ " icon reference(s) were usable"
  | .bundleCompiled bundle => "compiled bundle at " ++ toString bundle
  | .catalogAvailable catalog => "catalog available at " ++ toString catalog

end Event

end IconAssets
