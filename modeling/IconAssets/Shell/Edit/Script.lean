import IconAssets.Shell.Regex.Reader
import IconAssets.Shell.Utility.Lines

/-!
# Editing scripts

A script is a list of commands that is run for each line.  A command may be bound to certain lines:
to those with an address, or to all from one address to another, or to all others.  What a command
works on is the pattern space, which holds the line, and a second space that holds text aside.
-/

namespace IconAssets
namespace Shell
namespace Edit

/-- What a line is known by. -/
inductive Address where
  | line (n : Nat)
  /-- Every so many lines from a first one on. -/
  | step (first every : Nat)
  | last
  /-- An expression that is found in the line; `none` is the one that was looked for last. -/
  | found (r : Option Regex)

/-- Where a range of lines ends. -/
inductive RangeEnd where
  | address (a : Address)
  /-- So many lines behind the first one. -/
  | lines (n : Nat)
  /-- At a multiple of a number. -/
  | multiple (n : Nat)

/-- The lines to which a command is bound. -/
structure Selector where
  first : Option Address
  last : Option RangeEnd
  negated : Bool

/-- How the case of letters is changed. -/
inductive CaseChange where
  | keep
  | upper
  | lower
  deriving DecidableEq

/-- A piece of what stands in the place of a match. -/
inductive Piece where
  | char (c : Char)
  | group (n : Nat)
  /-- Changes the case from here on. -/
  | casing (m : CaseChange)
  /-- Changes the case of the next character. -/
  | nextCasing (m : CaseChange)

/-- A substitution of text. -/
structure Substitution where
  regex : Option Regex
  pieces : List Piece
  /-- Which of the matches is the first one that is replaced. -/
  number : Nat
  isGlobal : Bool
  prints : Bool
  file : Option Text

/-- When a jump is taken. -/
inductive Jump where
  | always
  | replaced
  | notReplaced
  deriving DecidableEq

/-- What a command does. -/
inductive Action where
  /-- The commands up to a place belong together. -/
  | block (stop : Nat)
  | nothing
  | number
  | fileName
  | append (t : Text)
  | insert (t : Text)
  | change (t : Text)
  | jump (when_ : Jump) (label : Text)
  | delete
  | deleteFirst
  | get
  | getAppend
  | hold
  | holdAppend
  | exchange
  | clear
  | list (width : Option Nat)
  | next
  | nextAppend
  | print
  | printFirst
  | quit (status : Nat) (silently : Bool)
  | readFile (file : Text)
  | readLine (file : Text)
  | substitute (s : Substitution)
  | translate (pairs : List (Spelled × Spelled))
  | write (file : Text)
  | writeFirst (file : Text)

/-- A command of a script. -/
structure Command where
  selector : Selector
  action : Action

/-- A script. -/
structure Script where
  commands : Array Command
  /-- The places that jumps go to. -/
  labels : List (Text × Nat)
  /-- Whether lines are only written when a command says so. -/
  silent : Bool
  /-- The files that are written. -/
  files : List Text

/-- What is read of a script. -/
structure Settings where
  extended : Bool
  utf8 : Bool
  zeroEnded : Bool
  sandboxed : Bool

end Edit
end Shell
end IconAssets
