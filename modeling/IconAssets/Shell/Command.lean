import IconAssets.Text.Basic

/-!
# What shell scripts are made of

## Names and marks

Which texts are names of variables, which words have a meaning of their own, and the characters
that stand for more than themselves.
-/

namespace IconAssets
namespace Shell

/-- Whether a name may hold this character. -/
def isNameChar (c : Char) : Bool := c.isAlphanum || c = '_'

/-- Whether a name may start with this character. -/
def isNameStart (c : Char) : Bool := c.isAlpha || c = '_'

/-- Whether a text is the name of a variable. -/
def isName (t : Text) : Bool := t.head?.any isNameStart && t.all isNameChar

/-- Whether a character is the name of a parameter that is no variable. -/
def isSpecialName (c : Char) : Bool := c.isDigit || c ∈ ['@', '*', '#', '?', '$', '!', '-']

/-- The backquote. -/
def backquote : Char := '\x60'

/-- The opening brace. -/
def openBrace : Char := '\x7b'

/-- The closing brace. -/
def closeBrace : Char := '\x7d'

/-- The words that have a meaning of their own where a command may start. -/
def keywords : List Text :=
  ["!", "\x7b", "\x7d", "case", "do", "done", "elif", "else", "esac", "fi", "for", "if", "in",
    "then", "until", "while"].map String.toList

/-- The marks that end a list of commands. -/
def closingMarks : List Text :=
  [")", ";;", "do", "done", "elif", "else", "esac", "fi", "then", "\x7d"].map String.toList

/-- The names of commands that no function may have. -/
def reservedNames : List Text :=
  [".", ":", "break", "continue", "eval", "exec", "exit", "export", "local", "readonly", "return",
    "set", "shift", "times", "trap", "unset"].map String.toList

/-!
## Commands

The commands of scripts: simple commands with redirections, and the ways to combine commands.  A
word is kept as its parts, because what it stands for is only known when the command is run.
-/

/-- What is done about a parameter without value. -/
inductive Remedy where
  /-- A word stands in for the value. -/
  | standIn
  /-- A word becomes the value. -/
  | assign
  /-- A word is the complaint with which the script ends. -/
  | complain
  /-- Nothing; but a word stands in for a value that is there. -/
  | standInIfSet
  deriving DecidableEq, Repr

/-- Which part of a value is cut off where it matches a pattern. -/
structure Cut where
  /-- Whether the part is at the end of the value. -/
  atEnd : Bool
  /-- Whether it is the longest such part, and not the shortest. -/
  longest : Bool
  deriving DecidableEq, Repr

/-- A part of a word.  What a quoted part stands for is never split and matches only itself. -/
inductive Part where
  | text (quoted : Bool) (t : Text)
  /-- The value of a parameter. -/
  | value (quoted : Bool) (name : Text)
  /-- The number of bytes in the value of a parameter. -/
  | size (quoted : Bool) (name : Text)
  /-- The value of a parameter, with a remedy if there is none; an empty value may count as
  none. -/
  | remedied (quoted : Bool) (name : Text) (remedy : Remedy) (emptyIsNone : Bool)
      (word : List Part)
  /-- The value of a parameter without the part that matches a pattern. -/
  | trimmed (quoted : Bool) (name : Text) (cut : Cut) (pattern : List Part)
  /-- What a script writes; its first line has the given number. -/
  | output (quoted : Bool) (line : Nat) (script : Text)
  /-- The value of an expression. -/
  | sum (quoted : Bool) (expression : List Part)
  /-- A parameter that is written in no known way. -/
  | malformed
  deriving Repr

/-- A word of a command. -/
abbrev Word := List Part

/-- How a file is opened to be written. -/
inductive Writing where
  /-- What it holds is lost; by force also where files are to be kept. -/
  | anew (forced : Bool)
  /-- What is written goes to its end. -/
  | behind
  /-- What is written takes the place of what it holds, which can be read, too. -/
  | within
  deriving DecidableEq, Repr

/-- Where a stream of a command comes from or goes to. -/
inductive Redirection where
  | read (stream : Nat) (word : Word)
  | write (stream : Nat) (manner : Writing) (word : Word)
  /-- A stream becomes the same as another, or is closed. -/
  | copy (stream : Nat) (source : Word)
  /-- A stream reads a text of the script. -/
  | document (stream : Nat) (word : Word)
  deriving Repr

/-- A command. -/
inductive Command where
  | nothing
  | simple (line : Nat) (assignments : List (Text × Word)) (words : List Word)
      (redirections : List Redirection)
  | redirected (line : Nat) (body : Command) (redirections : List Redirection)
  | pipe (stages : List Command)
  | background (body : Command)
  | negate (body : Command)
  | both (left right : Command)
  | either (left right : Command)
  | sequence (left right : Command)
  | choice (test yes no : Command)
  | loop (whileTrue : Bool) (test body : Command)
  /-- A loop over words, or over the arguments of the script. -/
  | each (line : Nat) (name : Text) (words : Option (List Word)) (body : Command)
  /-- The body of the first arm with a pattern that a word matches. -/
  | select (line : Nat) (subject : Word) (arms : List (List Word × Command))
  | subshell (line : Nat) (body : Command) (redirections : List Redirection)
  | define (name : Text) (body : Command)
  deriving Repr

end Shell
end IconAssets
