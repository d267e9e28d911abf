import IconAssets.Shell.Builtin
import IconAssets.Shell.Builtin.Limit
import IconAssets.Shell.Builtin.Meaning

/-!
# The commands of the shell by their names

## Reading options in scripts

A script reads its options one at a time.  Between two of them the shell remembers the next argument
and how far the letters of an argument have been read; the number of the next argument is also in
a variable, and a script that assigns it starts again.
-/

namespace IconAssets
namespace Shell
namespace Builtin

/-- The variable with the value of an option. -/
def optionValueVariable : Text := "OPTARG".toList

/-- What an option letter is in a table of letters, where a colon stands behind those with a value:
none for an unknown letter, and else whether it has a value. -/
def optionKind? : Text → Char → Option Bool
  | [], _ => none
  | x :: ':' :: t, c => if x = c then some true else optionKind? t c
  | x :: t, c => if x = c then some false else optionKind? t c

/-- How the reading of an option ends. -/
structure OptionFound where
  letter : Char
  /-- The value; none for a variable that is to be forgotten. -/
  value : Option Text
  complaint : Option Text
  place : OptionPlace
  ended : Bool

/-- Reads the next option of some words. -/
def nextOption (letters : Text) (words : List Text) (p : OptionPlace) : OptionFound :=
  let word (i : Nat) : Option Text := words[i - 1]?
  let left := match p.offset with
    | some k => if p.next ≤ 1 then [] else ((word (p.next - 1)).getD []).drop k
    | none => []
  let current := (word p.next).getD []
  let quiet := letters.head? = some ':'
  let ended (next : Nat) : OptionFound := ⟨'?', none, none, ⟨next, none⟩, true⟩
  let read (letter : Char) (rest : Text) (next : Nat) : OptionFound :=
    let place : OptionPlace :=
      ⟨next, some (((word (next - 1)).getD []).length - rest.length)⟩
    let failed (c : Char) (complaint : String) : OptionFound :=
      if quiet then ⟨c, some [letter], none, place, false⟩
      else ⟨'?', none, some (say complaint), place, false⟩
    let named := String.ofList [letter]
    match optionKind? letters letter with
    | none => failed '?' ("Illegal option -" ++ named ++ "\n")
    | some false => ⟨letter, some [], none, place, false⟩
    | some true =>
      if rest ≠ [] then ⟨letter, some rest, none, ⟨next, none⟩, false⟩
      else
        match word next with
        | some v => ⟨letter, some v, none, ⟨next + 1, none⟩, false⟩
        | none =>
          let r := failed ':' ("No arg for -" ++ named ++ " option\n")
          { r with place := ⟨next, none⟩ }
  match left, current with
  | c :: rest, _ => read c rest p.next
  | [], ['-', '-'] => ended (p.next + 1)
  | [], '-' :: c :: rest => read c rest (p.next + 1)
  | [], _ => ended p.next

/-- Reads the next option of the arguments into a variable. -/
def getopts : Builtin := fun env args => do
  match args with
  | letters :: name :: more => do
    let s ← get
    let words := if more = [] then s.arguments else more
    let p : OptionPlace :=
      if words.length + 1 < s.optionPlace.next then ⟨1, none⟩ else s.optionPlace
    let r := nextOption letters words p
    match r.complaint with
    | some t => Act.write 2 t
    | none => pure ()
    match r.value with
    | some v => Act.assign env optionValueVariable v
    | none =>
      if !r.ended then modify fun s => s.setVariable optionValueVariable (some ⟨none, false, false⟩)
    Act.assign env optionVariable (Text.ofNat r.place.next)
    if !isName name then Act.refuse (name ++ say ": bad variable name")
    Act.assign env name [r.letter]
    modify fun s => { s with optionPlace := r.place, status := if r.ended then 1 else 0 }
  | _ => Act.refuse (say "Usage: getopts optstring var [arg...]")

/-! ## The table of commands -/

/-- The commands that run other commands. -/
def runners : List Text := [".", "eval", "exec", "command", "type", "kill"].map String.toList

/-- The commands that need nothing but the state of the shell, apart from one that knows the names
of all. -/
def plain : List (Text × Builtin) :=
  [(":", status 0), ("true", status 0), ("false", status 1), ("echo", echo), ("printf", printf),
    ("test", test), ("[", bracket), ("pwd", pwd), ("cd", cd), ("chdir", cd),
    ("export", mark "export" fun v => { v with exported := true }),
    ("readonly", mark "readonly" fun v => { v with readOnly := true }),
    ("local", localVariables), ("unset", unset), ("set", adjust), ("shift", shift), ("exit", exit),
    ("return", back), ("break", leave .leave), ("continue", leave .again), ("trap", trap),
    ("read", read), ("umask", umask), ("wait", wait), ("alias", aliases), ("unalias", unalias),
    ("times", times), ("ulimit", ulimit), ("jobs", jobs), ("bg", control), ("fg", control),
    ("getopts", getopts)].map fun e => (String.toList e.1, e.2)

/-- The names of all commands of the shell. -/
def names : List Text := "hash".toList :: runners ++ plain.map (·.1)

/-- The commands that need nothing but the state of the shell. -/
def all : List (Text × Builtin) := ("hash".toList, hash names) :: plain

end Builtin
end Shell
end IconAssets
