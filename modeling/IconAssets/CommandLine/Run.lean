import IconAssets.CommandLine.Arguments
import IconAssets.Compile.Launch
import IconAssets.Log.Filter

/-!
# Running the program

## Help texts

What the program prints when it is asked for help.
-/

namespace IconAssets
namespace CommandLine

/-- The lines of a help text. -/
def Topic.lines : Topic → List String
  | .program =>
    ["Generate icon asset catalogs from source references",
     "",
     "Usage: icon-catalog <COMMAND>",
     "",
     "Commands:",
     "  build     Scan sources and generate the catalog in one step",
     "  scan      Scan sources and write the icon manifest",
     "  generate  Generate the catalog from a manifest",
     "  help      Print this message or the help of the given subcommand(s)",
     "",
     "Options:",
     "  -h, --help  Print help"]
  | .command .build =>
    ["Scan sources and generate the catalog in one step",
     "",
     "Usage: icon-catalog build [OPTIONS] --source <SOURCE> --output <OUTPUT>",
     "",
     "Options:",
     "      --source <SOURCE>",
     "          Source directory to scan",
     "      --output <OUTPUT>",
     "          Directory receiving the catalog (and compiled bundle)",
     "      --config <CONFIG>",
     "          JSON config naming the provider resource roots",
     "      --resources <RESOURCES>",
     "          Directory holding `phosphor/` and `ionicons/` resource roots",
     "      --platform <PLATFORM>",
     "          Platform passed to the catalog compiler (for example `iphoneos`)",
     "      --deployment-target <DEPLOYMENT_TARGET>",
     "          Minimum deployment target passed to the catalog compiler",
     "      --no-compile",
     "          Skip the catalog compiler and keep only the uncompiled catalog",
     "  -h, --help",
     "          Print help"]
  | .command .scan =>
    ["Scan sources and write the icon manifest",
     "",
     "Usage: icon-catalog scan --source <SOURCE> --output <OUTPUT>",
     "",
     "Options:",
     "      --source <SOURCE>  Source directory to scan",
     "      --output <OUTPUT>  Manifest file to write",
     "  -h, --help             Print help"]
  | .command .generate =>
    ["Generate the catalog from a manifest",
     "",
     "Usage: icon-catalog generate [OPTIONS] --manifest <MANIFEST> --output <OUTPUT> --config <CONFIG>",
     "",
     "Options:",
     "      --manifest <MANIFEST>",
     "          Manifest written by `scan`",
     "      --output <OUTPUT>",
     "          Directory receiving the catalog (and compiled bundle)",
     "      --config <CONFIG>",
     "          JSON config naming the provider resource roots",
     "      --platform <PLATFORM>",
     "          Platform passed to the catalog compiler (for example `iphoneos`)",
     "      --deployment-target <DEPLOYMENT_TARGET>",
     "          Minimum deployment target passed to the catalog compiler",
     "      --no-compile",
     "          Skip the catalog compiler and keep only the uncompiled catalog",
     "  -h, --help",
     "          Print help"]
  | .help =>
    ["Print this message or the help of the given subcommand(s)",
     "",
     "Usage: icon-catalog help [COMMAND]...",
     "",
     "Arguments:",
     "  [COMMAND]...  Print help for the subcommand(s)"]

/-- A help text. -/
def Topic.text (t : Topic) : Text := t.lines.flatMap fun l => l.toList ++ ['\n']

/-!
## Command lines

A command line is read, what it asks for is done, and the events that a filter chooses are shown.
The exit status is zero for success, one for a failure, and two for a command line that is refused.
-/

/-- What a run of the program shows, and its exit status. -/
structure Report where
  status : Nat
  out : Text
  err : Text
  deriving DecidableEq, Repr

/-- The variable that holds the filter for events. -/
def filterVariable : Text := "ICON_CATALOG_LOG".toList

/-- Reports how a run has ended. -/
def conclude (o : Outcome) : Run Unit :=
  Run.report <|
    match o with
    | .noIcons => .noReferences
    | .nothingValid invalid => .noneUsable invalid.length
    | .generated _ _ (some bundle) => .bundleCompiled bundle
    | .generated catalog _ none => .catalogAvailable catalog.path

/-- The compiler of a run that is to compile. -/
def compiler? (env : Environment) (compile : Bool) : Option Compiler :=
  if compile then some (Compile.Tool.standard.compile env) else none

/-- Does what a request asks for. -/
def perform (env : Environment) : Request → Run Unit
  | .build options compile => do
    conclude (← Pipeline.build env (compiler? env compile) options)
  | .scan options => do
    let _ ← Pipeline.scan options
  | .generate options compile => do
    conclude (← Pipeline.generate env (compiler? env compile) options)
  | .help _ => pure ()

/-- The lines of the events that a filter shows, and between them what has been written to the same
stream. -/
def errorText (filter : Log.Filter) (w : World) : Text :=
  (List.range (w.events.length + 1)).flatMap fun k =>
    Utf8.decodeLenient (w.sentAfter 2 k) ++ filter.lines (w.events[k]?).toList

/-- Runs the program. -/
def run (env : Environment) (d : Disk) (args : List Text) : Report × Disk :=
  match read args with
  | .error refusal => (⟨2, [], refusal.message⟩, d)
  | .ok (.help topic) => (⟨0, topic.text, []⟩, d)
  | .ok request =>
    let filter := Log.Filter.ofSetting (env filterVariable)
    match perform env request (.ofDisk d) with
    | .ok _ w => (⟨0, Utf8.decodeLenient (w.sentTo 1), errorText filter w⟩, w.disk)
    | .error failure w =>
      (⟨1, Utf8.decodeLenient (w.sentTo 1),
        errorText filter w ++ failure.message.toList ++ ['\n']⟩, w.disk)

end CommandLine
end IconAssets
