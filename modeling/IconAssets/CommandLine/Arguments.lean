import IconAssets.Pipeline
import IconAssets.Text.Terminal

/-!
# Reading the command line

A command line names a command and gives its options.  An option's value is the next word, or
stands behind an equals sign; a word that starts with a hyphen is never the next word's value.

Options are settled one by one: an option without value, or given twice, is refused when the next
option is reached or the line ends, and an unknown word at once.
-/

namespace IconAssets
namespace CommandLine

/-- An option of a command. -/
inductive Setting where
  | source
  | output
  | config
  | resources
  | manifest
  | platform
  | deploymentTarget
  | noCompile
  deriving DecidableEq, Repr

namespace Setting

/-- The name of an option, which follows two hyphens. -/
def name : Setting → String
  | .source => "source"
  | .output => "output"
  | .config => "config"
  | .resources => "resources"
  | .manifest => "manifest"
  | .platform => "platform"
  | .deploymentTarget => "deployment-target"
  | .noCompile => "no-compile"

/-- What stands for the value in messages, for options that take one. -/
def placeholder? : Setting → Option String
  | .source => some "SOURCE"
  | .output => some "OUTPUT"
  | .config => some "CONFIG"
  | .resources => some "RESOURCES"
  | .manifest => some "MANIFEST"
  | .platform => some "PLATFORM"
  | .deploymentTarget => some "DEPLOYMENT_TARGET"
  | .noCompile => none

/-- Whether an option takes a value. -/
def takesValue (s : Setting) : Bool := s.placeholder?.isSome

/-- Whether an option names a path, which must not be empty. -/
def isPath : Setting → Bool
  | .source | .output | .config | .resources | .manifest => true
  | .platform | .deploymentTarget | .noCompile => false

/-- An option as it is shown in messages. -/
def shown (s : Setting) : String :=
  match s.placeholder? with
  | some p => "--" ++ s.name ++ " <" ++ p ++ ">"
  | none => "--" ++ s.name

end Setting

/-- A command. -/
inductive Command where
  | build
  | scan
  | generate
  deriving DecidableEq, Repr

namespace Command

/-- All commands. -/
def all : List Command := [.build, .scan, .generate]

/-- The name of a command. -/
def name : Command → String
  | .build => "build"
  | .scan => "scan"
  | .generate => "generate"

/-- The command of a name. -/
def ofName? (t : Text) : Option Command := all.find? fun c => c.name.toList = t

/-- The options of a command. -/
def settings : Command → List Setting
  | .build =>
    [.source, .output, .config, .resources, .platform, .deploymentTarget, .noCompile]
  | .scan => [.source, .output]
  | .generate => [.manifest, .output, .config, .platform, .deploymentTarget, .noCompile]

/-- The options that a command cannot do without. -/
def required : Command → List Setting
  | .build | .scan => [.source, .output]
  | .generate => [.manifest, .output, .config]

/-- The option of a command with a given name. -/
def setting? (c : Command) (name : Text) : Option Setting :=
  c.settings.find? fun s => s.name.toList = name

end Command

/-- What a help text is about. -/
inductive Topic where
  | program
  | command (c : Command)
  | help
  deriving DecidableEq, Repr

/-- What a command line asks for. -/
inductive Request where
  | build (options : BuildOptions) (compile : Bool)
  | scan (options : ScanOptions)
  | generate (options : GenerateOptions) (compile : Bool)
  | help (topic : Topic)
  deriving DecidableEq, Repr

/-- Why a command line is refused. -/
inductive Refusal where
  | noCommand
  | unknownCommand (word : Text)
  | unexpectedWord (word : Text)
  | missingOptions
  | repeatedOption (setting : Setting)
  | missingValue (setting : Setting)
  | unneededValue (option : String) (value : Text)
  deriving DecidableEq, Repr

/-- The name of the word for help. -/
def helpName : Text := "help".toList

/-- What the program is for, in one line. -/
def about : String := "Generate icon asset catalogs from source references"

/-- A word of a command line as it is shown in messages, in a style of its own. -/
def shownWord (w : Text) : String := String.ofList (Text.Terminal.styled w)

/-- The words for a refusal, as a terminal would get them. -/
def Refusal.words : Refusal → String
  | .noCommand => about
  | .unknownCommand w => "error: unrecognized subcommand '" ++ shownWord w ++ "'"
  | .unexpectedWord w => "error: unexpected argument '" ++ shownWord w ++ "' found"
  | .missingOptions => "error: the following required arguments were not provided:"
  | .repeatedOption s => "error: the argument '" ++ s.shown ++ "' cannot be used multiple times"
  | .missingValue s => "error: a value is required for '" ++ s.shown ++ "' but none was supplied"
  | .unneededValue o v =>
    "error: unexpected value '" ++ shownWord v ++ "' for '" ++ o ++
      "' found; no more were expected"

/-- The first line of the words for a refusal, without codes for terminals. -/
def Refusal.message (r : Refusal) : Text :=
  let shown := Text.Terminal.plain r.words.toList
  let line := shown.takeWhile (· ≠ '\n')
  if line.length < shown.length && line.getLast? = some '\r' then line.dropLast else line

/-- How a word of a command line is meant. -/
inductive Word where
  /-- Two hyphens: no options follow. -/
  | divider
  /-- An option, with a value behind an equals sign if there is one. -/
  | long (name : Text) (value : Option Text)
  /-- A row of letters behind one hyphen. -/
  | short (first : Char)
  | plain
  deriving DecidableEq, Repr

/-- How a word is meant. -/
def Word.of (t : Text) : Word :=
  match t with
  | '-' :: '-' :: [] => .divider
  | '-' :: '-' :: rest =>
    let name := rest.takeWhile (· ≠ '=')
    match rest.drop name.length with
    | [] => .long name none
    | _ :: value => .long name (some value)
  | '-' :: c :: _ => .short c
  | _ => .plain

/-- The options that have been given, and the one that is not settled yet. -/
structure Given where
  values : List (Setting × Text)
  pending : Option (Setting × Option Text)
  deriving DecidableEq, Repr

namespace Given

/-- Takes an option with its value. -/
def record (g : Given) (s : Setting) (value : Text) : Except Refusal Given :=
  if (g.values.lookup s).isSome then .error (.repeatedOption s)
  else if s.isPath && value = [] then .error (.missingValue s)
  else .ok { g with values := g.values ++ [(s, value)] }

/-- Settles the option that is not settled yet. -/
def settle (g : Given) : Except Refusal Given :=
  match g.pending with
  | none => .ok g
  | some (s, none) => .error (.missingValue s)
  | some (s, some value) => { g with pending := none }.record s value

/-- The value of an option. -/
def value? (g : Given) (s : Setting) : Option Text := g.values.lookup s

/-- The path that is the value of an option. -/
def path? (g : Given) (s : Setting) : Option Path := (g.value? s).map Path.mk

/-- The path that is the value of an option that must be there. -/
def path (g : Given) (s : Setting) : Path := (g.path? s).getD Path.empty

/-- What the options of a command ask for. -/
def request (g : Given) : Command → Request
  | .build =>
    .build ⟨g.path .source, g.path .output, g.path? .config, g.path? .resources,
      g.value? .platform, g.value? .deploymentTarget⟩ (g.value? .noCompile).isNone
  | .scan => .scan ⟨g.path .source, g.path .output⟩
  | .generate =>
    .generate ⟨g.path .manifest, g.path .output, g.path .config, g.value? .platform,
      g.value? .deploymentTarget⟩ (g.value? .noCompile).isNone

end Given

/-- Reads the words behind a command.  Behind two hyphens, none is expected. -/
def readSettings (c : Command) (g : Given) : List Text → Except Refusal Request
  | [] =>
    match g.settle with
    | .error e => .error e
    | .ok g =>
      if c.required.all fun s => (g.value? s).isSome then .ok (g.request c)
      else .error .missingOptions
  | w :: ws =>
    match Word.of w with
    | .divider =>
      match ws with
      | [] => readSettings c g []
      | next :: _ => .error (.unexpectedWord next)
    | .long name value =>
      if name = helpName then
        match value with
        | some v => .error (.unneededValue "--help" v)
        | none =>
          match g.settle with
          | .error e => .error e
          | .ok _ => .ok (.help (.command c))
      else
        match c.setting? name with
        | none => .error (.unexpectedWord ('-' :: '-' :: name))
        | some s =>
          match s.takesValue, value with
          | false, some v => .error (.unneededValue s.shown v)
          | true, none =>
            match g.settle with
            | .error e => .error e
            | .ok g => readSettings c { g with pending := some (s, none) } ws
          | _, _ =>
            match g.settle with
            | .error e => .error e
            | .ok g =>
              match g.record s (value.getD []) with
              | .error e => .error e
              | .ok g => readSettings c g ws
    | .short first =>
      if first = 'h' then
        match g.settle with
        | .error e => .error e
        | .ok _ => .ok (.help (.command c))
      else .error (.unexpectedWord ['-', first])
    | .plain =>
      match g.pending with
      | some (s, none) => readSettings c { g with pending := some (s, some w) } ws
      | _ => .error (.unexpectedWord w)

/-- Reads the words behind the command for help. -/
def readTopic : List Text → Except Refusal Request
  | [] => .ok (.help .program)
  | w :: ws =>
    let topic : Option Topic :=
      if w = helpName then some .help else (Command.ofName? w).map .command
    match topic, ws with
    | none, _ => .error (.unknownCommand w)
    | some t, [] => .ok (.help t)
    | some _, next :: _ => .error (.unknownCommand next)

/-- Whether a word is a command, the one for help included. -/
def isCommand (w : Text) : Bool := w = helpName || (Command.ofName? w).isSome

/-- Reads a command line. -/
def read : List Text → Except Refusal Request
  | [] => .error .noCommand
  | w :: ws =>
    match Word.of w with
    | .divider =>
      match ws with
      | [] => .error .noCommand
      | next :: _ =>
        if isCommand next then .error (.unexpectedWord next) else .error (.unknownCommand next)
    | .long name value =>
      if name = helpName then
        match value with
        | some v => .error (.unneededValue "--help" v)
        | none => .ok (.help .program)
      else .error (.unexpectedWord ('-' :: '-' :: name))
    | .short first =>
      if first = 'h' then .ok (.help .program) else .error (.unexpectedWord ['-', first])
    | .plain =>
      if w = helpName then readTopic ws
      else
        match Command.ofName? w with
        | some c => readSettings c ⟨[], none⟩ ws
        | none => .error (.unknownCommand w)

end CommandLine
end IconAssets
