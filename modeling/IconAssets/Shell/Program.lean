import IconAssets.Shell.Pattern
import IconAssets.Shell.State

/-!
# Programs

A program is a file that may be run.  The programs of the machine hold a mark and their name;
a script names in its first line the program that runs it, and that one may be a script again.

Programs without a folder in their name are looked for in the folders of the search path.
-/

namespace IconAssets
namespace Shell

open Pattern (pathOf)

/-- The words for a fault, without its number. -/
def faultWords (f : Disk.Fault) : Text :=
  let message := f.message.toList
  if ')' ∈ message then ((message.reverse.dropWhile (· ≠ '(')).drop 2).reverse else message

/-- The words of a shell for a program that cannot be run. -/
def launchWords : Disk.Fault → Text
  | .missing | .notFolder => say "not found"
  | fault => faultWords fault

/-- The status of a shell for a program that cannot be run. -/
def launchStatus : Disk.Fault → Nat
  | .missing | .notFolder | .tooManyLinks | .nameTooLong => 127
  | _ => 126

/-- What is run in the end: a program of the machine, and its words with its own name first. -/
structure Image where
  program : Text
  words : List Text

namespace Program

/-- What the programs of the machine start with. -/
def machineMark : Text := ['\x7f', 'E', 'L', 'F']

/-- The content of a program of the machine. -/
def machineFile (name : String) : Object := .file (toBytes (machineMark ++ name.toList)) true

/-- The number of bytes in which the first line of a script is looked for. -/
def headSize : Nat := 256

/-- Whether a character separates the words of a first line. -/
def isGap (c : Char) : Bool := c = ' ' || c = '\t'

/-- The first line of a script behind its mark; none if it may have been cut off. -/
def firstLine? (head : Text) : Option Text :=
  let padded := head ++ List.replicate (headSize - 2 - head.length) '\x00'
  if '\n' ∈ head then some (head.takeWhile (· ≠ '\n'))
  else if (padded.dropWhile isGap).any fun c => isGap c || c = '\x00' then some padded.dropLast
  else none

/-- A text without the gaps at its end. -/
def trimEnd (t : Text) : Text := (t.reverse.dropWhile isGap).reverse

/-- The program that a first line names, and the argument that it has for it. -/
def interpreterOf? (line : Text) : Option (Text × List Text) :=
  let line := (trimEnd line).dropWhile isGap
  let isEnd (c : Char) : Bool := isGap c || c = '\x00'
  let program := line.takeWhile fun c => !isEnd c
  let behind := line.drop program.length
  if line = [] then none
  else if behind.head?.any isGap then
    some (program, [(behind.dropWhile isGap).takeWhile (· ≠ '\x00')])
  else some (program, [])

/-- The greatest number of bytes in an argument. -/
def maxArgument : Nat := 131071

/-- The greatest number of scripts that run each other. -/
def maxScripts : Nat := 5

/-- Loads the program at a path: follows scripts to a program of the machine. -/
def loadWithin (d : Volume) : Nat → Text → List Text → Except Disk.Fault Image
  | fuel, path, words =>
    match d.resolve (if path = [] then ⟨['.']⟩ else pathOf path) with
    | .error e => .error e
    | .ok place =>
      match (d.lookup place).filter fun n => n.isFile && n.isRunnable with
      | some n =>
        let data := n.data
        if words.any fun w => maxArgument < w.length then .error .argumentsTooLong
        else
          match ofBytes (data.take headSize) with
          | '#' :: '!' :: head =>
            match (firstLine? head).bind interpreterOf? with
            | none => .error .notRunnable
            | some (interpreter, argument) =>
              match fuel with
              | 0 => .error .tooManyLinks
              | fuel + 1 =>
                loadWithin d fuel interpreter (interpreter :: argument ++ path :: words.drop 1)
          | t =>
            if machineMark.isPrefixOf t then .ok ⟨t.drop machineMark.length, words⟩
            else .error .notRunnable
      | none => .error .denied

/-- Loads the program at a path. -/
def load (d : Volume) (path : Text) (words : List Text) : Except Disk.Fault Image :=
  if path = [] then .error .missing else loadWithin d maxScripts path words

/-- The search path where none is set. -/
def standardPath : Text := "/bin:/usr/bin".toList

/-- The search path of a shell that finds none. -/
def shellSearchPath : Text :=
  say "/usr/local/sbin:/usr/local/bin:/usr/sbin:/usr/bin:/sbin:/bin"

/-- The paths at which a program of a given name may be. -/
def candidates (env : Environment) (name : Text) : List Text :=
  if '/' ∈ name then [name]
  else (Text.pieces ':' (((env searchVariable).map ofText).getD standardPath)).map fun folder =>
    if folder = [] then name else folder ++ '/' :: name

/-- Loads the first program at one of several paths.  A path that leads to something that may not
be run is passed over, but remembered. -/
def loadFirst (d : Volume) (words : List Text) (denied : Bool) : List Text → Except Disk.Fault Image
  | [] => .error (if denied then .denied else .missing)
  | path :: more =>
    match load d path words with
    | .ok i => .ok i
    | .error .denied => loadFirst d words true more
    | .error .missing | .error .notFolder => loadFirst d words denied more
    | .error e => .error e

/-- Finds and loads the program that the first of some words names. -/
def find (d : Volume) (env : Environment) (words : List Text) : Except Disk.Fault Image :=
  match words with
  | [] | [] :: _ => .error .missing
  | name :: _ =>
    if '/' ∈ name then load d name words
    else if Disk.maxNameLength < name.length then .error .nameTooLong
    else loadFirst d words false (candidates env name)

/-- The paths from the first one on at which there is a file; if there is none, whether there is
something else. -/
def filesFrom (d : Volume) : Bool → List Text → Except Disk.Fault (List Text)
  | other, [] => .error (if other then .denied else .missing)
  | other, path :: more =>
    match d.find? (pathOf path) with
    | some n => if n.isFile then .ok (path :: more) else filesFrom d true more
    | none => filesFrom d other more

/-- Where a shell looks for a command, the place where it is first. -/
def placesOf (d : Volume) (env : Environment) (name : Text) : Except Disk.Fault (List Text) :=
  if name = [] then .error .denied
  else if '/' ∈ name then .ok [name]
  else filesFrom d false (candidates env name)

/-- The path of the shell that runs files in no known form. -/
def shellPath : Text := "/bin/sh".toList

/-- Loads the program at a path; a file in no known form is run by a shell. -/
def loadLoosely (d : Volume) (path : Text) (words : List Text) : Except Disk.Fault Image :=
  match load d path words with
  | .error .notRunnable => load d shellPath (shellPath :: path :: words.drop 1)
  | r => r

/-- Loads the first program at one of several paths as a shell does it. -/
def loadAny (d : Volume) (words : List Text) (fault : Disk.Fault) :
    List Text → Except Disk.Fault Image
  | [] => .error fault
  | path :: more =>
    match loadLoosely d path words with
    | .ok i => .ok i
    | .error .missing | .error .notFolder => loadAny d words fault more
    | .error e => loadAny d words e more

end Program

end Shell
end IconAssets
