import IconAssets.CommandLine.Run
import IconAssets.Shell.Machine

/-!
# The program

Reads from the real disk what a command line is about, runs it on that picture, and then makes the
changes of the picture on the real disk.
-/

namespace IconAssets
namespace Program

/-- The paths that a request names. -/
def pathsOf : CommandLine.Request → List Path
  | .build o _ => [o.source, o.output] ++ o.config.toList ++ o.resources.toList
  | .scan o => [o.source, o.output]
  | .generate o _ => [o.manifest, o.output, o.config]
  | .help _ => []

/-- The file of the configuration that a request names. -/
def configOf? : CommandLine.Request → Option Path
  | .build o _ => o.config
  | .generate o _ => some o.config
  | _ => none

/-- The place that a path leads to if all folders on the way are there. -/
def placeOf (working : Place) (p : Path) : Place :=
  Disk.travel (if p.isAbsolute then [] else working) (Text.pieces '/' p.text)

/-- The path of a place. -/
def pathTo (p : Place) : String := String.ofList ('/' :: Text.glue '/' p)

/-- The variables that a run looks at. -/
def consulted : List Text :=
  ["PATH".toList, CommandLine.filterVariable] ++ Platform.consulted

/-- The objects at and below a place. -/
partial def gather (place : Place) : IO (List (Place × Object)) := do
  if place ∈ Shell.Machine.devices.map (fun e => e.1.map String.toList) then return []
  let path := (← IO.currentDir) / pathTo place
  if ← path.isDir then
    let mut objects := [(place, Object.folder)]
    for entry in ← path.readDir do
      objects := objects ++ (← gather (place ++ [entry.fileName.toList]))
    return objects
  else if ← path.pathExists then
    let data ← IO.FS.readBinFile path
    return [(place, .file data.toList false)]
  else
    return []

/-- The folders above a place, as far as they are there. -/
def gatherAbove (place : Place) : IO (List (Place × Object)) := do
  let mut objects := []
  for folder in Disk.above place do
    let path := (← IO.currentDir) / pathTo folder
    if folder ≠ [] && (← path.isDir) then
      objects := (folder, Object.folder) :: objects
  return objects

/-- A picture of the disk around some paths. -/
def picture (working : Place) (paths : List Path) : IO Disk := do
  let mut objects := [(working, Object.folder)] ++ (← gatherAbove working)
  for p in paths do
    let place := placeOf working p
    objects := objects ++ (← gatherAbove place) ++ (← gather place)
  return ⟨objects, working⟩

/-- Adds the compilers in the folders of the search path, which can be run. -/
def addPrograms (env : Environment) (d : Disk) : IO Disk := do
  let mut d := d
  for candidate in Shell.Program.candidates env (Shell.ofText Compile.Tool.standard.program) do
    let place := placeOf d.working (Shell.Pattern.pathOf candidate)
    for e in ← gather place do
      match e.2 with
      | .file data _ =>
        d := { d with objects := (place, .file data true) :: d.objects ++ (← gatherAbove place) }
      | _ => pure ()
  return d

/-- Makes the changes from one picture to another. -/
def store (before after : Disk) : IO Unit := do
  let deepFirst := before.objects.mergeSort fun e f => f.1.length ≤ e.1.length
  for e in deepFirst do
    if (before.lookup e.1).isSome && after.lookup e.1 ≠ before.lookup e.1 then
      let path := (← IO.currentDir) / pathTo e.1
      if ← path.isDir then IO.FS.removeDir path
      else if ← path.pathExists then IO.FS.removeFile path
  let flatFirst := after.objects.mergeSort fun e f => e.1.length ≤ f.1.length
  for e in flatFirst do
    if after.lookup e.1 ≠ before.lookup e.1 then
      let path := (← IO.currentDir) / pathTo e.1
      match after.lookup e.1 with
      | some .folder => IO.FS.createDir path
      | some (.file data _) => IO.FS.writeBinFile path ⟨data.toArray⟩
      | some (.device _) | none => pure ()

/-- The picture of the disk that a request needs. -/
def pictureFor (env : Environment) (working : Place) (request : CommandLine.Request) : IO Disk := do
  let paths := pathsOf request
  let first ← picture working paths
  let named := match (configOf? request).map (Config.load first) with
    | some (.ok config) => config.phosphorRoot.toList ++ config.ioniconsRoot.toList
    | _ => []
  addPrograms env (← picture working (paths ++ named))

/-- Runs the program. -/
def run (args : List Text) : IO UInt32 := do
  let working := (Text.pieces '/' (← IO.currentDir).toString.toList).filter (· ≠ [])
  let mut values : List (Text × Text) := []
  for name in consulted do
    if let some value ← IO.getEnv (String.ofList name) then
      values := (name, value.toList) :: values
  let env : Environment := fun name => values.lookup name
  let before ← match CommandLine.read args with
    | .ok request => do
      let d ← pictureFor env working request
      pure { d with objects := d.objects ++ Shell.Machine.objects }
    | .error _ => pure ⟨[], working⟩
  let (report, after) := CommandLine.run env before args
  store before after
  IO.print (String.ofList report.out)
  IO.eprint (String.ofList report.err)
  return report.status.toUInt32

end Program
end IconAssets

/-- Runs the program with the words of its command line. -/
def main (args : List String) : IO UInt32 := IconAssets.Program.run (args.map String.toList)
