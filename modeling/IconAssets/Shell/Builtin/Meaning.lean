import IconAssets.Shell.Builtin

/-!
# What names mean

A name may be an alias, which stands for a text, or the name of a program whose place is
remembered.  Commands show and change what names mean, and tell what a name means as a command.

Aliases and remembered programs are shown in the order of the tables in which they are kept: by a
rank that comes from their letters, and those of one rank by their age.
-/

namespace IconAssets
namespace Shell
namespace Builtin

/-- Entries in the order of a table of a given size. -/
def tableOrder {α : Type} (size : Nat) (entries : List (Text × α)) : List (Text × α) :=
  entries.mergeSort fun a b => rankIn size a.1 ≤ rankIn size b.1

/-- The size of the table of aliases. -/
def aliasTableSize : Nat := 39

/-- The size of the table of programs. -/
def programTableSize : Nat := 31

/-- An alias as a shell reads it back. -/
def aliasText (name value : Text) : Text := name ++ '=' :: quoted value

/-- Complains about an alias that is not there. -/
def noAlias (command : String) (name : Text) : Act Unit := do
  Act.setStatus 1
  Act.write 2 (say (command ++ ": ") ++ name ++ say " not found\n")

/-- Shows an alias or makes one; the answer is what is to be shown. -/
def showOrMake (a : Text) : Act Text := do
  let name := a.take 1 ++ (a.drop 1).takeWhile (· ≠ '=')
  let old := (← get).aliases.lookup name
  if name.length < a.length then
    let value := a.drop (name.length + 1)
    modify fun s =>
      { s with aliases :=
          if old.isSome then s.aliases.map fun e => if e.1 = name then (name, value) else e
          else s.aliases ++ [(name, value)] }
    return []
  else
    match old with
    | some value => return aliasText name value ++ ['\n']
    | none => do
      noAlias "alias" name
      return []

/-- Shows aliases, or makes them.  Complaints come before what is shown. -/
def aliases : Builtin := fun _ args => do
  Act.setStatus 0
  let shown ← if args = [] then do
      let all := tableOrder aliasTableSize (← get).aliases
      pure (all.flatMap fun e => aliasText e.1 e.2 ++ ['\n'])
    else do
      pure (← args.mapM showOrMake).flatten
  if shown ≠ [] then Act.write 1 shown

/-- Forgets aliases. -/
def unalias : Builtin := fun _ args => do
  let (options, names) ← optionsOf ['a'] args
  Act.setStatus 0
  if options ≠ [] then modify fun s => { s with aliases := [] }
  else
    for name in names do
      if ((← get).aliases.lookup name).isNone then noAlias "unalias" name
      else modify fun s => { s with aliases := s.aliases.filter fun e => e.1 ≠ name }

/-- The path of a remembered program. -/
def trackedPath (env : Environment) (s : State) (name : Text) (t : Tracked) : Text :=
  (Program.candidates (s.values env) name).getD t.index name

/-- Finds the place of a command that is a program, and remembers it. -/
def track (env : Environment) (name : Text) : Act (Except Disk.Fault (List Text)) := do
  let s ← get
  let all := Program.candidates (s.values env) name
  let known := match s.tracked.lookup name with
    | some ⟨index, false⟩ => some index
    | _ => none
  match known with
  | some index => return .ok (all.drop index)
  | none => do
    let found := Program.placesOf s.disk (s.values env) name
    match found with
    | .ok paths =>
      if '/' ∉ name then
        let t : Tracked := ⟨all.length - paths.length, false⟩
        set (s.remember name t)
    | .error _ => pure ()
    return found

/-- Shows the programs whose places are remembered, or finds and remembers programs. -/
def hash (table : List Text) : Builtin := fun env args => do
  let (options, names) ← optionsOf ['r'] args
  Act.setStatus 0
  if options ≠ [] then modify fun s => { s with tracked := [] }
  else if names = [] then
    let s ← get
    for (name, t) in tableOrder programTableSize s.tracked do
      writeLine (trackedPath env s name t ++ if t.stale then ['*'] else [])
  else
    for name in names do
      modify fun s => { s with tracked := s.tracked.filter fun e => e.1 ≠ name }
      let s ← get
      if !(name ∈ table || (s.functions.lookup name).isSome || '/' ∈ name) then
        match ← track env name with
        | .ok _ => pure ()
        | .error fault => do
          Act.complain (name ++ say ": " ++ launchWords fault)
          Act.setStatus 1

/-- What a name means as a command; in brief only as it would be called. -/
def describe (env : Environment) (table : List Text) (brief : Bool) (name : Text) :
    Act Unit := do
  let s ← get
  let tell (words : Text) : Act Unit := writeLine (if brief then name else name ++ words)
  let known := s.tracked.lookup name
  let failed : Act Unit := do
    Act.setStatus 127
    if !brief then Act.write 1 (name ++ say ": not found\n")
  if name ∈ keywords then tell (say " is a shell keyword")
  else
    match s.aliases.lookup name, known with
    | some value, _ =>
      if brief then writeLine (say "alias " ++ aliasText name value)
      else tell (say " is an alias for " ++ value)
    | none, some t =>
      let path := trackedPath env s name t
      if brief then writeLine path else tell (say " is a tracked alias for " ++ path)
    | none, none =>
      if (s.functions.lookup name).isSome then tell (say " is a shell function")
      else if name ∈ reservedNames then tell (say " is a special shell builtin")
      else if name ∈ table then tell (say " is a shell builtin")
      else if '/' ∈ name then
        if s.disk.hasObject (Pattern.pathOf name) then tell (say " is " ++ name) else failed
      else
        match ← track env name with
        | .ok (path :: _) => if brief then writeLine path else tell (say " is " ++ path)
        | _ => failed

end Builtin
end Shell
end IconAssets
