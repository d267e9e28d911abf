import IconAssets.Pipeline
import IconAssets.Shell.Interpreter
import IconAssets.Shell.Kernel
import IconAssets.Shell.Volume.Change

/-!
# Running catalog compilers

A compiler is a program.  It gets the arguments of a request, nothing to read, and the working
directory as it is; what it writes to its two streams, the second after the first, are its
diagnostics.  It has compiled the bundle if it ends with status zero.
-/

namespace IconAssets
namespace Compile

open Shell (Ending)

/-- What a program leaves behind. -/
structure Finished where
  out : Bytes
  err : Bytes
  ending : Ending

/-- The number of a compiler's process. -/
def processNumber : Nat := 4096

/-- The number of the process that starts a compiler. -/
def parentNumber : Nat := 4095

/-- The time at which a compiler starts. -/
def startTime : Int := 1767225600000000000

/-- The most times that processes go on. -/
def patience : Nat := 1000000000000

/-- The names of the variables that a compiler may see. -/
def seenVariables : List Text :=
  (["PATH", "HOME", "LANG", "NO_COLOR", "ICON_CATALOG_LOG"].map String.toList ++ Platform.consulted).map
    Shell.ofText

/-- The place of the device that has nothing to read. -/
def nothingPlace : Place := ["dev".toList, "null".toList]

/-- Does what a program does, with nothing to read. -/
def perform (env : Environment) (v : Shell.Volume) (words : List Text) (body : Shell.Act Unit) :
    Finished × Shell.Volume :=
  let y : Shell.System := ⟨v, #[], #[], processNumber, []⟩
  let (y, _, out) := y.addPipe .outward
  let (y, _, err) := y.addPipe .outward
  let (y, input) := match v.number? nothingPlace with
    | some k =>
      let (y, n) := y.addHandle ⟨.node k, 0, true, false, false⟩
      (y, [(0, n)])
    | none => (y, [])
  let s : Shell.State := { Shell.State.initial .empty v.working (input ++ [(1, out), (2, err)])
    (words.headD []) words.tail processNumber parentNumber with
      inherited := seenVariables.filter fun n => (env (Shell.toText n)).isSome }
  let k := (Shell.Kernel.mk y [⟨processNumber, .turn, s, fun _ => body, none⟩]).run processNumber patience
  let written (n : Nat) : Bytes := ((k.system.pipe? n).map Shell.Pipe.content).getD []
  (⟨written 0, written 1, (k.system.ended.lookup processNumber).getD (.killed Shell.deadlySignal)⟩,
    k.system.volume)

/-- Runs a program. -/
def runProgram (env : Environment) (d : Disk) (program : Text) (args : List Text) :
    Except Disk.Fault (Finished × Disk) :=
  if '\x00' ∈ program || args.any fun a => '\x00' ∈ a then .error .nulInArgument
  else
    let words := (program :: args).map Shell.ofText
    let v := Shell.Volume.ofDisk d startTime
    match Shell.Program.find v env words with
    | .error e => .error e
    | .ok image =>
      let (finished, v) :=
        perform env v words (Shell.runImage Shell.maxStarts env Shell.engine image)
      .ok (finished, v.toDisk d.working)

/-- The words for an ending that is no success. -/
def endingMessage : Ending → Text
  | .exited status => "exit status ".toList ++ Text.ofNat status
  | .killed _ => "terminated by signal".toList

/-- The verdict on a program that has ended. -/
def Finished.verdict (f : Finished) : Verdict :=
  let diagnostics := Utf8.decodeLenient f.out ++ Utf8.decodeLenient f.err
  if f.ending = .exited 0 then ⟨true, diagnostics⟩
  else ⟨false, endingMessage f.ending ++ '\n' :: diagnostics⟩

/-- The diagnostics of a compiler that was not run. -/
def notRun (action : String) (object : Text) (fault : Disk.Fault) : Verdict :=
  ⟨false, (action ++ String.ofList object ++ ": " ++ fault.message).toList⟩

/-- Makes the directory of the bundle and runs the compiler. -/
def Tool.compile (tool : Tool) (env : Environment) : Compiler := fun request d =>
  match d.makeFolders request.bundle with
  | (d, some fault) => (notRun "creating bundle directory " request.bundle.text fault, d)
  | (d, none) =>
    match runProgram env d tool.program (tool.arguments request) with
    | .error fault => (notRun "failed to execute " tool.program fault, d)
    | .ok (finished, d) => (finished.verdict, d)

end Compile
end IconAssets
