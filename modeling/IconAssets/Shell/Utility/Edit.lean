import IconAssets.Shell.Edit.Run

/-!
# Editing lines

The utility that runs editing scripts on files, on its input, or on files in their places.
-/

namespace IconAssets
namespace Shell
namespace Utility

open Pattern (pathOf)

/-- How an editor is used. -/
def editUsage : String :=
  "Usage: sed [OPTION]... \x7bscript-only-if-no-other-script\x7d [input-file]...\n\n" ++
  "  -n, --quiet, --silent\n                 suppress automatic printing of pattern space\n" ++
  "      --debug\n                 annotate program execution\n" ++
  "  -e script, --expression=script\n                 add the script to the commands to be executed\n" ++
  "  -f script-file, --file=script-file\n" ++
  "                 add the contents of script-file to the commands to be executed\n" ++
  "  --follow-symlinks\n                 follow symlinks when processing in place\n" ++
  "  -i[SUFFIX], --in-place[=SUFFIX]\n" ++
  "                 edit files in place (makes backup if SUFFIX supplied)\n" ++
  "  -l N, --line-length=N\n                 specify the desired line-wrap length for the `l' command\n" ++
  "  --posix\n                 disable all GNU extensions.\n" ++
  "  -E, -r, --regexp-extended\n                 use extended regular expressions in the script\n" ++
  "                 (for portability use POSIX -E).\n" ++
  "  -s, --separate\n                 consider files as separate rather than as a single,\n" ++
  "                 continuous long stream.\n" ++
  "      --sandbox\n                 operate in sandbox mode (disable e/r/w commands).\n" ++
  "  -u, --unbuffered\n                 load minimal amounts of data from the input files and flush\n" ++
  "                 the output buffers more often\n" ++
  "  -z, --null-data\n                 separate lines by NUL characters\n" ++
  "      --help     display this help and exit\n" ++
  "      --version  output version information and exit\n\n" ++
  "If no -e, --expression, -f, or --file option is given, then the first\n" ++
  "non-option argument is taken as the sed script to interpret.  All\n" ++
  "remaining arguments are names of input files; if no input files are\n" ++
  "specified, then the standard input is read.\n\n" ++
  "GNU sed home page: <https://www.gnu.org/software/sed/>.\n" ++
  "General help using GNU software: <https://www.gnu.org/gethelp/>.\n"

/-- The chunks of a script. -/
def editChunks (c : Call) (settings : List Setting) : Except Effect (List (Edit.Origin × Text)) :=
  let given := settings.filter fun s => s.1 = "e" || s.1 = "f"
  (given.zipIdx 1).mapM fun (s, i) =>
    if s.1 = "e" then .ok (.expression i, s.2)
    else
      match contentOf c s.2 with
      | .error fault =>
        .error (c.refuse 4 (say "couldn't open file " ++ s.2 ++ say ": " ++ faultWords fault))
      | .ok data => .ok (.file s.2, if data.getLast? = some '\n' then data.dropLast else data)

/-- The disk with the files empty that a script writes. -/
def openWritten (c : Call) (d : Volume) (files : List Text) : Except Effect Volume :=
  (files.filter fun f => f ∉ ["/dev/stdout".toList, "/dev/stderr".toList]).foldlM (fun d f =>
    match d.writeFile (pathOf f) [] with
    | .ok d => .ok d
    | .error fault =>
      .error (c.refuse 4 (say "couldn't open file " ++ f ++ say ": " ++ faultWords fault))) d

/-- Runs an editing script on lines. -/
def sed (c : Call) : Effect :=
  match Options.read (.ofTables "bsnrzuEe:f:l:i::V:" ["binary,b", "regexp-extended,E", "debug",
      "in-place?=,i", "expression=,e", "file=,f", "follow-symlinks", "line-length=,l", "null-data,z",
      "zero-terminated,z", "quiet,n", "posix", "silent,n", "sandbox", "separate,s", "unbuffered,u",
      "help"]) c.arguments with
  | .error message =>
    ⟨c.disk, [(true, c.name ++ say ": " ++ message ++ '\n' :: say editUsage)], 1, none, false⟩
  | .ok (settings, args) =>
    if isSet settings "help" then c.ok (say editUsage)
    else
      match go settings args with
      | .ok e | .error e => e
where
  /-- Goes on with the settings and the other arguments. -/
  go (settings : List Setting) (args : List Text) : Except Effect Effect := do
    let on (k : String) : Bool := isSet settings k
    let (settings, files) ← if on "e" || on "f" then .ok (settings, args)
      else
        match args with
        | [] => .error ⟨c.disk, [(true, say editUsage)], 1, none, false⟩
        | t :: rest => .ok (settings ++ [("e", t)], rest)
    let suffix := settingOf? settings "i"
    let chunks ← editChunks c settings
    let script ← (Edit.read ⟨on "E" || on "r", c.speaksUtf8, on "z", on "sandbox"⟩
      chunks).mapError fun complaint => c.refuse complaint.status complaint.message
    let disk ← openWritten c c.disk script.files
    if files = [] && suffix.isSome then throw { c.refuse 4 (say "no input files") with disk }
    let ending := if on "z" then '\x00' else '\n'
    let start : Edit.Session :=
      { disk
        utf8 := c.speaksUtf8
        silent := on "n" || script.silent
        separate := on "s" || suffix.isSome
        suffix
        ending
        width := ((settingOf? settings "l").map fun t =>
          (digits? (t.takeWhile Char.isDigit)).getD 0).getD 70
        program := c.name
        written := []
        edited := none
        files := if files = [] then [['-']] else files
        name := []
        lines := []
        input := c.input
        number := 0
        pattern := []
        ended := true
        hold := []
        holdEnded := true
        queue := []
        replaced := false
        ranges := script.commands.map fun _ => .inactive
        sought := none
        unended := []
        readers := []
        failed := false
        stopped := none }
    let s := Edit.run script start
    let status := match s.stopped with
      | some n => if n = 0 && s.failed then 2 else n
      | none => if s.failed then 2 else 0
    let readsInput := s.files.all fun f => !isInput f
    let rest := if isInput s.name && (c.inputIsFile || on "u") then s.lines.flatten
      else if readsInput && (files = [] || files.any isInput) then [] else s.input
    return ⟨s.disk, s.written.reverse, status, some rest, s.stopped.isSome⟩

end Utility
end Shell
end IconAssets
