import IconAssets.Disk.Change
import IconAssets.Manifest
import IconAssets.Text.Hidden

/-!
# Failures

A failure has a cause and the steps during which it arose, the outermost first.  It is shown as one
line: the steps, then the cause, with a colon after each step.
-/

namespace IconAssets

/-- A step during which a failure may arise. -/
inductive Step where
  | readingConfig (path : Path)
  | parsingConfig (path : Path)
  | loadingConfig
  | creating (path : Path)
  | writingManifest (path : Path)
  | readingManifest (path : Path)
  | loadingManifest (path : Path)
  | takingManifest
  | creatingOutput (path : Path)
  | creatingStaging (path : Path)
  | readingImage (path : Path)
  | writingImage (assetName : Text)
  | reading (path : Path)
  | parsing (path : Path)
  | writing (path : Path)
  | removingStale (path : Path)
  | settingAside (path : Path)
  | moving (path : Path)
  deriving DecidableEq, Repr

/-- The words for a step. -/
def Step.message : Step → String
  | .readingConfig p => "reading config " ++ toString p
  | .parsingConfig p => "parsing config " ++ toString p
  | .loadingConfig => "failed to read config"
  | .creating p => "creating " ++ toString p
  | .writingManifest p => "writing manifest " ++ toString p
  | .readingManifest p => "reading manifest " ++ toString p
  | .loadingManifest p => "loading manifest " ++ toString p
  | .takingManifest => "failed to read manifest"
  | .creatingOutput p => "creating output directory " ++ toString p
  | .creatingStaging p => "creating staging directory in " ++ toString p
  | .readingImage p => "reading source image " ++ toString p
  | .writingImage name => "writing image for " ++ String.ofList name
  | .reading p => "reading " ++ toString p
  | .parsing p => "parsing " ++ toString p
  | .writing p => "writing " ++ toString p
  | .removingStale p => "removing stale catalog " ++ toString p
  | .settingAside p => "setting aside previous catalog " ++ toString p
  | .moving p => "moving catalog into " ++ toString p

/-- What may go wrong. -/
inductive Cause where
  /-- Something cannot be done on the disk. -/
  | disk (fault : Disk.Fault)
  /-- Something cannot be made at a path that was chosen for it. -/
  | diskAt (fault : Disk.Fault) (path : Path)
  /-- A text is not the JSON document it should be. -/
  | json (fault : Json.Fault)
  /-- A text is no manifest. -/
  | manifest (flaw : Manifest.Flaw)
  /-- The path of a source image does not end in a name. -/
  | namelessSource (path : Path)

/-- The words for a cause. -/
def Cause.message : Cause → String
  | .disk f => f.message
  | .diskAt f p => f.message ++ " at path " ++ String.ofList (Text.quotedName p.text)
  | .json f => f.message
  | .manifest f => f.message
  | .namelessSource p => "source path " ++ toString p ++ " has no file name"

/-- A failure: the steps during which it arose, the outermost first, and its cause. -/
structure Failure where
  steps : List Step
  cause : Cause

namespace Failure

/-- The failure as part of a larger step. -/
def during (s : Step) (f : Failure) : Failure := { f with steps := s :: f.steps }

/-- The words for a failure. -/
def message (f : Failure) : String :=
  String.intercalate ": " (f.steps.map Step.message ++ [f.cause.message])

end Failure

/-- A fault of the disk during a step. -/
def Disk.Fault.during (f : Disk.Fault) (s : Step) : Failure := ⟨[s], .disk f⟩

end IconAssets
