import IconAssets.Shell.Utility.Call

/-!
# Options of utilities

Options are letters behind a hyphen, several at once, or names behind two hyphens, which may be cut
short as long as they are told apart.  An option may have a value: the rest of its word, or the
next word.  Options may stand between other arguments, unless the utility ends them at the first
one; two hyphens end them in any case.
-/

namespace IconAssets
namespace Shell

/-- An option that has been given, by its letter or its full name, and its value. -/
abbrev Setting := String × Text

/-- Whether an option has a value. -/
inductive Valued where
  | never
  | always
  /-- Only if the value is in the same word. -/
  | attached
  deriving DecidableEq

/-- The options that a utility knows. -/
structure Known where
  /-- Whether the first other argument ends the options. -/
  inFront : Bool
  letters : List (Char × Valued)
  /-- The long names, each with what stands for it in the settings. -/
  names : List (Text × String × Valued)

namespace Known

/-- The letters of a table in which a colon stands behind a letter with a value, and two behind a
letter with a value in the same word. -/
def lettersOf : List Char → List (Char × Valued)
  | c :: ':' :: ':' :: cs => (c, .attached) :: lettersOf cs
  | c :: ':' :: cs => (c, .always) :: lettersOf cs
  | c :: cs => (c, .never) :: lettersOf cs
  | [] => []

/-- A long name of a table, with a letter or a name behind a comma that stands for it, and an equals
sign at its end if it has a value; a question mark in front of the sign means that the value may
be left out. -/
def nameOf (entry : String) : Text × String × Valued :=
  let t := entry.toList
  let name := t.takeWhile fun c => c ≠ '=' && c ≠ ',' && c ≠ '?'
  let behind := t.drop name.length
  let valued : Valued :=
    if behind.head? = some '?' then .attached else if behind.head? = some '=' then .always else .never
  let key := (behind.dropWhile (· ≠ ',')).drop 1
  (name, String.ofList (if key = [] then name else key), valued)

/-- The options of two tables. -/
def ofTables (letters : String) (names : List String) : Known :=
  match letters.toList with
  | '+' :: cs => ⟨true, lettersOf cs, names.map nameOf⟩
  | cs => ⟨false, lettersOf cs, names.map nameOf⟩

end Known

namespace Options

/-- The setting of a letter. -/
def key (c : Char) : String := String.ofList [c]

/-- A text between plain quotation marks. -/
def marked (t : Text) : Text := '\'' :: t ++ ['\'']

/-- What the rest of a word of letters sets, and the letter whose value is in the next word. -/
def ofLetters (known : Known) : Text → Except Text (List Setting × Option Char)
  | [] => .ok ([], none)
  | c :: cs =>
    match known.letters.lookup c with
    | none => .error (say "invalid option -- " ++ marked [c])
    | some .never => (ofLetters known cs).map fun r => ((key c, []) :: r.1, r.2)
    | some .attached => .ok ([(key c, cs)], none)
    | some .always => if cs = [] then .ok ([], some c) else .ok ([(key c, cs)], none)

/-- The option of a long name. -/
def named (known : Known) (name : Text) : Except Text (Text × String × Valued) :=
  match known.names.find? fun e => e.1 = name with
  | some e => .ok e
  | none =>
    match known.names.filter fun e => name.isPrefixOf e.1 with
    | [] => .error (say "unrecognized option " ++ marked ('-' :: '-' :: name))
    | e :: more =>
      if more.all fun f => f.2 = e.2 then .ok e
      else .error (say "option " ++ marked ('-' :: '-' :: name) ++ say " is ambiguous; possibilities:" ++
        (e :: more).flatMap fun f => say " '--" ++ f.1 ++ ['\''])

/-- What a long option sets, and whether its value is the next word. -/
def ofLong (known : Known) (long : Text) (next : Option Text) : Except Text (Setting × Bool) :=
  let name := long.takeWhile (· ≠ '=')
  let value? := if name.length < long.length then some (long.drop (name.length + 1)) else none
  match named known name with
  | .error e => .error e
  | .ok (full, k, valued) =>
    let option := say "option " ++ marked ('-' :: '-' :: full)
    match valued, value?, next with
    | .never, some _, _ => .error (option ++ say " doesn't allow an argument")
    | .always, none, some v => .ok ((k, v), true)
    | .always, none, none => .error (option ++ say " requires an argument")
    | _, v, _ => .ok ((k, v.getD []), false)

/-- What a word of letters sets, and whether the value of the last letter is the next word. -/
def ofShort (known : Known) (letters : Text) (next : Option Text) :
    Except Text (List Setting × Bool) :=
  match ofLetters known letters, next with
  | .error e, _ => .error e
  | .ok (found, none), _ => .ok (found, false)
  | .ok (found, some x), some v => .ok (found ++ [(key x, v)], true)
  | .ok (_, some x), none => .error (say "option requires an argument -- " ++ marked [x])

/-- The settings and the other arguments of a call; the first word may be a value that has been
taken already. -/
def readFrom (known : Known) : Bool → List Text → Except Text (List Setting × List Text)
  | _, [] => .ok ([], [])
  | true, _ :: rest => readFrom known false rest
  | false, a :: rest =>
    match a with
    | ['-', '-'] => .ok ([], rest)
    | '-' :: '-' :: long => do
      let (s, taken) ← ofLong known long rest.head?
      let (more, others) ← readFrom known taken rest
      return (s :: more, others)
    | '-' :: c :: cs => do
      let (found, taken) ← ofShort known (c :: cs) rest.head?
      let (more, others) ← readFrom known taken rest
      return (found ++ more, others)
    | _ =>
      if known.inFront then .ok ([], a :: rest)
      else (readFrom known false rest).map fun r => (r.1, a :: r.2)

/-- The settings and the other arguments of a call. -/
def read (known : Known) (args : List Text) : Except Text (List Setting × List Text) :=
  readFrom known false args

end Options

/-- Whether an option is among others. -/
def isSet (settings : List Setting) (k : String) : Bool := settings.any fun s => s.1 = k

/-- The value of the last setting of an option. -/
def settingOf? (settings : List Setting) (k : String) : Option Text := settings.reverse.lookup k

/-- Which of several options has been given last. -/
def lastOf (settings : List Setting) (ks : List String) : Option String :=
  (settings.reverse.find? fun s => s.1 ∈ ks).map (·.1)

/-- Goes on with the settings and the other arguments. -/
def Call.withOptions (c : Call) (letters : String) (names : List String) (misused : Nat)
    (go : List Setting → List Text → Effect) : Effect :=
  match Options.read (.ofTables letters names) c.arguments with
  | .ok (settings, rest) => go settings rest
  | .error message => c.misuse misused message

namespace Utility

open Pattern (pathOf)

/-- Does something for each of several files, one after the other. -/
def forEach (c : Call) (files : List Text) (f : Call → Text → Effect) : Effect :=
  files.foldl (fun e t => e.andThen fun d => f { c with disk := d, input := e.rest.getD c.input } t)
    (c.finish 0)

/-- The paths that lead to the input. -/
def inputPaths : List Text := ["/dev/stdin", "/dev/fd/0", "/proc/self/fd/0"].map String.toList

/-- Whether a name stands for the input. -/
def isInput (file : Text) : Bool := file = ['-'] || file ∈ inputPaths

/-- The content of a file, or the input for a hyphen. -/
def contentOf (c : Call) (file : Text) : Except Disk.Fault Text :=
  if isInput file then .ok c.input
  else (c.disk.readFile (pathOf file)).map ofBytes

/-- Does something with the content of each file, or with the input if there are no files; `failed`
says what is wrong with a file that cannot be read. -/
def forContents (c : Call) (files : List Text) (failed : Text → Disk.Fault → Effect)
    (f : Call → Text → Text → Effect) : Effect :=
  let files := if files = [] then [['-']] else files
  forEach c files fun c t =>
    match contentOf c t with
    | .ok data =>
      let e := f c t data
      if isInput t then e.usingInput else e
    | .error fault => failed t fault

/-- A complaint about a file that cannot be read. -/
def unreadable (c : Call) (file : Text) (fault : Disk.Fault) : Effect :=
  c.refuse 1 (c.shown file ++ say ": " ++ faultWords fault)

end Utility

end Shell
end IconAssets
