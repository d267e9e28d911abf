import IconAssets.Catalog.Generate
import IconAssets.Document
import IconAssets.Image.Location
import IconAssets.Platform.Resolve
import IconAssets.Source.Tree

/-!
# Runs

A build scans a source tree and writes the catalog of its icons at once.  The two halves can also
be run on their own: a scan leaves a manifest behind, and a generation starts from one.

Icons without image and a failing compiler are reported and do not stop a run.  A build also does
without a configuration that it cannot read; a generation does not.
-/

namespace IconAssets

/-- Compiles a catalog, which may change the disk. -/
abbrev Compiler := Compile.Request → Disk → Compile.Verdict × Disk

/-- What a build is asked to do. -/
structure BuildOptions where
  source : Path
  output : Path
  config : Option Path
  resources : Option Path
  platform : Option Text
  deploymentTarget : Option Text
  deriving DecidableEq, Repr

/-- What a scan is asked to do. -/
structure ScanOptions where
  source : Path
  output : Path
  deriving DecidableEq, Repr

/-- What a generation is asked to do. -/
structure GenerateOptions where
  manifest : Path
  output : Path
  config : Path
  platform : Option Text
  deploymentTarget : Option Text
  deriving DecidableEq, Repr

/-- How a run ends. -/
inductive Outcome where
  /-- There are no icons. -/
  | noIcons
  /-- No icon has a source image. -/
  | nothingValid (invalid : List Text)
  /-- A catalog has been written; `compiled` is the bundle if it has been compiled too. -/
  | generated (catalog : Catalog.Generated) (invalid : List Text) (compiled : Option Path)
  deriving DecidableEq, Repr

namespace Pipeline

/-- Asks the compiler for a bundle. -/
def compile (compiler : Compiler) (request : Compile.Request) : Run Compile.Verdict := do
  Run.report (.compiling request.target)
  let w ← get
  let (verdict, d) := compiler request w.disk
  set { w with disk := d, requests := w.requests ++ [request] }
  return verdict

/-- Compiles a catalog if there is a compiler.  The answer is the bundle if that succeeds. -/
def compileCatalog (env : Environment) (compiler : Option Compiler) (output : Path)
    (platform deployment : Option Text) (catalog : Path) : Run (Option Path) := do
  match compiler with
  | none => return none
  | some compiler =>
    let bundle := output.child Catalog.bundleName
    let target := (Platform.resolve env platform deployment).value
    let verdict ← compile compiler ⟨catalog, bundle, target⟩
    if verdict.compiled then
      return some bundle
    else
      Run.report (.compilationFailed catalog verdict.diagnostics)
      return none

/-- Writes and compiles the catalog of those icons that have a source image. -/
def generateFrom (env : Environment) (compiler : Option Compiler) (icons : List Text)
    (roots : Roots) (output : Path) (platform deployment : Option Text) : Run Outcome := do
  let v := Image.validate (← Run.disk) roots icons
  Run.reportAll (v.invalid.map .iconInvalid)
  if v.valid = [] then
    Run.report .nothingValid
    return .nothingValid v.invalid
  else
    let catalog ← Catalog.generate v.valid roots output
    let compiled ← compileCatalog env compiler output platform deployment catalog.path
    return .generated catalog v.invalid compiled

/-- Scans a source tree. -/
def scanTree (source : Path) : Run (List Text) := do
  let (icons, events) := Source.scanTree (← Run.disk) source
  Run.reportAll events
  return icons

/-- The configuration of a build; one that cannot be read counts as none. -/
def optionalConfig (path : Option Path) : Run (Option Config) := do
  match path with
  | none => return none
  | some path =>
    match Config.load (← Run.disk) path with
    | .ok c => return some c
    | .error e =>
      Run.report (.configIgnored e)
      return none

/-- Scans a source tree and writes the catalog of its icons. -/
def build (env : Environment) (compiler : Option Compiler) (o : BuildOptions) : Run Outcome := do
  let icons ← scanTree o.source
  Run.report (.iconsFound icons.length o.source)
  if icons = [] then
    return .noIcons
  else
    let config ← optionalConfig o.config
    let roots := Roots.resolve config o.resources
    generateFrom env compiler icons roots o.output o.platform o.deploymentTarget

/-- Scans a source tree and writes the manifest of its icons. -/
def scan (o : ScanOptions) : Run (List Text) := do
  let icons ← scanTree o.source
  Manifest.write icons o.output
  Run.report (.manifestWritten icons.length o.output)
  return icons

/-- Something read from the disk as part of a larger step. -/
def demand {α : Type} (s : Step) (load : Disk → Except Failure α) : Run α := do
  match load (← Run.disk) with
  | .ok x => return x
  | .error e => Run.fail (e.during s)

/-- Writes the catalog of the icons of a manifest. -/
def generate (env : Environment) (compiler : Option Compiler) (o : GenerateOptions) :
    Run Outcome := do
  let icons ← demand .takingManifest fun d => Manifest.load d o.manifest
  let config ← demand .loadingConfig fun d => Config.load d o.config
  if icons = [] then
    return .noIcons
  else
    let roots := Roots.resolve (some config) none
    generateFrom env compiler icons roots o.output o.platform o.deploymentTarget

end Pipeline

end IconAssets
