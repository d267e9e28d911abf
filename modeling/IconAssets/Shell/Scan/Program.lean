import IconAssets.Shell.Regex.Basic
import IconAssets.Shell.Scan.Value

/-!
# Scanning programs

A program has rules, which are followed for each record of its input, and what is done before the
first record and after the last one.  Variables have numbers: those of the whole program, and those
of the function that is run.
-/

namespace IconAssets
namespace Shell
namespace Scan

/-- A variable. -/
inductive Slot where
  | shared (index : Nat)
  | own (index : Nat)
  deriving DecidableEq

/-- A relation between values. -/
inductive Relation where
  | less
  | atMost
  | same
  | other
  | more
  | atLeast
  deriving DecidableEq

/-- Whether a relation holds for an order. -/
def Relation.holds (r : Relation) (o : Ordering) : Bool :=
  match r with
  | .less => o = .lt
  | .atMost => o ≠ .gt
  | .same => o = .eq
  | .other => o ≠ .eq
  | .more => o = .gt
  | .atLeast => o ≠ .lt

/-- An operation on numbers. -/
inductive Operator where
  | add
  | subtract
  | multiply
  | divide
  | remainder
  | power
  deriving DecidableEq

/-- A function of the language. -/
inductive Builtin where
  | length
  | index
  | substr
  | sprintf
  | sin
  | cos
  | atan2
  | exp
  | log
  | int
  | sqrt
  | rand
  | srand
  | close
  | system
  | toupper
  | tolower
  | fflush
  | mktime
  | strftime
  | systime
  deriving DecidableEq

/-- An expression. -/
inductive Expr where
  | number (x : Quantity)
  | text (t : Text)
  | regex (r : Regex)
  | variable (s : Slot)
  /-- The number of fields. -/
  | fieldCount
  | field (index : Expr)
  | item (table : Slot) (key : List Expr)
  | assign (target value : Expr)
  | change (o : Operator) (target value : Expr)
  /-- Adds or subtracts one; the value is the one before unless `isNew`. -/
  | step (o : Operator) (isNew : Bool) (target : Expr)
  | choice (test first second : Expr)
  | both (a b : Expr)
  | either (a b : Expr)
  | not (a : Expr)
  | holds (key : List Expr) (table : Slot)
  | found (negated : Bool) (subject pattern : Expr)
  | relation (r : Relation) (a b : Expr)
  | joined (a b : Expr)
  | operation (o : Operator) (a b : Expr)
  | minus (a : Expr)
  | plus (a : Expr)
  | call (function : Nat) (arguments : List Expr)
  | builtin (b : Builtin) (arguments : List Expr)
  /-- The length of a variable's text, or the number of keys of a table. -/
  | lengthOf (s : Slot)
  | split (subject : Expr) (table : Slot) (separator : Option Expr)
  | locate (subject pattern : Expr)
  | substitute (isGlobal : Bool) (pattern replacement target : Expr)
  /-- Reads a record of the input. -/
  | read (target : Option Expr)
  /-- Reads a record of a file, or of what a command writes. -/
  | readFrom (isCommand : Bool) (name : Expr) (target : Option Expr)

/-- What output goes to. -/
inductive SinkKind where
  | file
  | addition
  | command
  deriving DecidableEq

/-- A statement. -/
inductive Statement where
  | value (e : Expr)
  | print (items : List Expr) (sink : Option (SinkKind × Expr))
  | printf (items : List Expr) (sink : Option (SinkKind × Expr))
  | block (statements : List Statement)
  | branch (test : Expr) (yes no : Statement)
  /-- A loop; the test comes before each round, or behind it. -/
  | loop (test : Option Expr) (isFirst : Bool) (step : Option Expr) (body : Statement)
  | forKeys (key : Slot) (table : Slot) (body : Statement)
  | delete (table : Slot) (key : List Expr)
  | leave
  | again
  | nextRecord
  | nextFile
  | exit (status : Option Expr)
  | back (value : Option Expr)

/-- When a rule is followed. -/
inductive Condition where
  | always
  | holds (e : Expr)
  /-- From a record to another one. -/
  | range (first last : Expr)

/-- A rule; without a body it prints the record. -/
structure Rule where
  condition : Condition
  body : Statement

/-- A function: the number of its parameters and its body. -/
structure Function where
  parameters : Nat
  body : Statement

/-- A program. -/
structure Program where
  before : List Statement
  rules : List Rule
  after : List Statement
  functions : Array Function
  /-- The names of the shared variables. -/
  names : List Text

/-- The names of the shared variables that the language gives a meaning to. -/
def specialNames : List Text :=
  ["NR", "FNR", "ARGC", "FS", "ORS", "RS", "OFS", "SUBSEP", "RSTART", "RLENGTH", "CONVFMT", "OFMT",
    "FILENAME", "ARGV", "ENVIRON"].map String.toList

/-- The variable of a name of the language. -/
def special (name : String) : Slot := .shared (specialNames.idxOf name.toList)

end Scan
end Shell
end IconAssets
