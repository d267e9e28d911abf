import IconAssets.Shell.Scan.Rules
import IconAssets.Shell.Scan.Run
import IconAssets.Shell.Utility.Start

/-!
# Scanning

The utility that runs scanning programs on files or on its input.
-/

namespace IconAssets
namespace Shell
namespace Utility

open Scan (Run Machine)

/-- How a scanner is used. -/
def scanUsage : String :=
  "Usage: mawk [Options] [Program] [file ...]\n\nProgram:\n" ++
  "    The -f option value is the name of a file containing program text.\n" ++
  "    If no -f option is given, a \"--\" ends option processing; the following\n" ++
  "    parameters are the program text.\n\nOptions:\n" ++
  "    -f program-file  Program  text is read from file instead of from the\n" ++
  "                     command-line.  Multiple -f options are accepted.\n" ++
  "    -F value         sets the field separator, FS, to value.\n" ++
  "    -v var=value     assigns value to program variable var.\n" ++
  "    --               unambiguous end of options.\n\n" ++
  "    Implementation-specific options are prefixed with \"-W\".  They can be\n    abbreviated:\n\n" ++
  "    -W version       show version information and exit.\n" ++
  "    -W compat        pre-POSIX 2001.\n" ++
  "    -W dump          show assembler-like listing of program and exit.\n" ++
  "    -W help          show this message and exit.\n" ++
  "    -W interactive   set unbuffered output, line-buffered input.\n" ++
  "    -W exec file     use file as program as well as last option.\n" ++
  "    -W posix         stricter POSIX checking.\n" ++
  "    -W random=number set initial random seed.\n" ++
  "    -W sprintf=number adjust size of sprintf buffer.\n" ++
  "    -W usage         show this message and exit.\n"

/-- What a scanner tells about itself. -/
def scanVersion : String :=
  "mawk 1.3.4 20240123\n" ++
  "Copyright 2008-2023,2024, Thomas E. Dickey\n" ++
  "Copyright 1991-1996,2014, Michael D. Brennan\n\n" ++
  "random-funcs:       arc4random_stir/arc4random\n" ++
  "regex-funcs:        internal\n\n" ++
  "compiled limits:\n" ++
  "sprintf buffer      8192\n" ++
  "maximum-integer     9223372036854775808\n"

/-- What the options of a scanner say. -/
structure ScanOptions where
  separator : Option Text
  assignments : List (Text × Text)
  files : List Text
  /-- The options that mean nothing. -/
  vacuous : List Text
  /-- What is told instead of running a program. -/
  tells : Option String

/-- Reads the options of a scanner; each call takes an argument. -/
def scanOptions (c : Call) : Nat → ScanOptions → List Text →
    Except Effect (ScanOptions × List Text)
  | 0, o, args => .ok (o, args)
  | fuel + 1, o, args =>
    match args with
    | ['-', '-'] :: rest => .ok (o, rest)
    | ('-' :: letter :: cs) :: rest =>
      let refuse (message : Text) : Except Effect (ScanOptions × List Text) :=
        .error (c.refuse 2 message)
      if letter ∈ ['F', 'v', 'f', 'W'] then
        let (given, rest) : Option Text × List Text :=
          if cs ≠ [] then (some cs, rest) else (rest.head?, rest.tail)
        match letter, given with
        | _, none => refuse (say "option -" ++ [letter] ++ say " lacks argument")
        | 'F', some t =>
          match badSeparator? t with
          | some message => refuse message
          | none => scanOptions c fuel { o with separator := some t } rest
        | 'f', some t => scanOptions c fuel { o with files := o.files ++ [t] } rest
        | 'v', some t =>
          match Run.assignment? t with
          | some a =>
            let isSeparator := a.1 ∈ ["FS".toList, "RS".toList]
            match if isSeparator then badSeparator? a.2 else none with
            | some message => refuse message
            | none => scanOptions c fuel { o with assignments := o.assignments ++ [a] } rest
          | none => refuse (say "improper assignment: -v " ++ t)
        | _, some t => word o t rest fuel
      else if letter = '-' then
        if (tellingWords ++ silentWords).any fun w => cs.isPrefixOf w.toList then word o cs rest fuel
        else refuse (say "not an option: --" ++ cs)
      else refuse (say "not an option: -" ++ letter :: cs)
    | args => .ok (o, args)
where
  /-- What is wrong with a separator. -/
  badSeparator? (t : Text) : Option Text :=
    let t := Run.assignedText t
    match Scan.separatorOf t with
    | .ok _ => none
    | .error e => some (say "line 0: regular expression compile failed (" ++ say e.message ++
        say ")\n" ++ t)
  /-- The words that make the scanner tell something. -/
  tellingWords : List String := ["version", "help", "usage"]
  /-- The words that nothing can be seen of. -/
  silentWords : List String :=
    ["interactive", "posix", "random", "repetitions", "sprintf", "traditional"]
  /-- Goes on with an option that is a word. -/
  word (o : ScanOptions) (t : Text) (rest : List Text) (fuel : Nat) :
      Except Effect (ScanOptions × List Text) :=
    let name := t.takeWhile (· ≠ '=')
    match (tellingWords ++ silentWords).find? fun w => name ≠ [] && name.isPrefixOf w.toList with
    | some w =>
      let tells := if w = "version" then some scanVersion
        else if w ∈ tellingWords then some scanUsage else none
      scanOptions c fuel { o with tells := o.tells <|> tells } rest
    | none =>
      scanOptions c fuel (if t = [] then o else { o with vacuous := o.vacuous ++ [t] }) rest

/-- The texts of a program, each with the name of its file if it has one, and the other arguments. -/
def scanTexts (c : Call) (o : ScanOptions) (args : List Text) :
    Except Effect (List (Option Text × Text) × List Text) :=
  if o.files = [] then
    match args with
    | [] => .error { c.finish 0 with written := [(true, say scanUsage)] }
    | t :: rest => .ok ([(none, t)], rest)
  else do
    let texts ← o.files.mapM fun f =>
      if c.disk.isFolder (Pattern.pathOf f) then
        .error (c.refuse 2 (say "read error (Is a directory)"))
      else
        match contentOf c f with
        | .ok t => .ok (some f, t)
        | .error fault =>
          .error (c.refuse 2 (say "cannot open \"" ++ f ++ say "\" (" ++ faultWords fault ++ say ")"))
    return (texts, args)

/-- The words that cannot be assigned. -/
def unassignable (name : Text) : Bool :=
  String.ofList name ∈ Scan.words || (Scan.builtins.lookup (String.ofList name)).isSome

/-- What a scanner has to do. -/
structure ScanPlan where
  options : ScanOptions
  program : Scan.Program
  arguments : List Text

/-- What a scanner has to do, or what it does instead. -/
def scanPlan (c : Call) : Except Effect ScanPlan := do
  let (o, args) ← scanOptions c (c.arguments.length + 1) ⟨none, [], [], [], none⟩ c.arguments
  match o.tells with
  | some t => throw (c.ok (say t))
  | none => pure ()
  let (texts, arguments) ← scanTexts c o args
  let program ← (Scan.Program.ofTexts c.name texts).mapError fun complaints =>
    { c.finish 2 with written := complaints.map fun t => (true, t) }
  return ⟨o, program, arguments⟩

/-- Makes the assignments that options ask for. -/
def scanAssignments (o : ScanOptions) : Run Unit := do
  for (name, value) in o.assignments do
    if unassignable name then
      Run.fault (say "cannot command line assign to " ++ name ++ say "\n\ttype clash or keyword")
    Run.assignNamed name value
  match o.separator with
  | some t => Run.assignNamed (say "FS") t
  | none => pure ()

/-- Runs a scanning program. -/
def scan : Start := fun s c => do
  match scanPlan c with
  | .error e => leave c e
  | .ok p => do
    for t in p.options.vacuous do
      Act.write 2 (c.name ++ say ": vacuous option: -W \"" ++ t ++ say "\"\n")
    let all : Run Unit := tryCatch (do
        scanAssignments p.options
        Run.program) fun _ => Run.closeAll
    let (_, m) ← all s (Machine.start c.name p.program c.vars p.arguments)
    Act.setStatus m.status

end Utility
end Shell
end IconAssets
