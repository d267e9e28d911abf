import IconAssets.Text.Basic

/-!
# Comments in Swift source

`stripComments` removes the comments of a source text and passes everything else through.  It
reads the text from left to right in one of five modes.  A line comment leaves nothing behind; a
block comment leaves one space and its newlines, so that the words on its two sides stay apart
and every line keeps its number.  Comment marks inside string literals mean nothing, and block
comments do not nest.
-/

namespace IconAssets
namespace Source

/-- What the characters read next belong to. -/
inductive Mode where
  /-- Code outside literals and comments. -/
  | code
  /-- A comment that ends before the next newline. -/
  | lineComment
  /-- A comment that ends behind the next closing mark. -/
  | blockComment
  /-- A string literal on one line. -/
  | literal
  /-- A string literal between triple quotes. -/
  | longLiteral
  deriving DecidableEq, Repr

/-- What is left of a text that starts in the given mode.

* A literal on one line also ends behind a newline, so that a missing quote does not swallow the
  line below.
* In both kinds of literal a backslash takes the next character with it, whatever it is. -/
def stripFrom : Mode → Text → Text
  | _, [] => []
  | .code, '/' :: '/' :: cs => stripFrom .lineComment cs
  | .code, '/' :: '*' :: cs => ' ' :: stripFrom .blockComment cs
  | .code, '"' :: '"' :: '"' :: cs => '"' :: '"' :: '"' :: stripFrom .longLiteral cs
  | .code, '"' :: cs => '"' :: stripFrom .literal cs
  | .code, c :: cs => c :: stripFrom .code cs
  | .lineComment, '\n' :: cs => '\n' :: stripFrom .code cs
  | .lineComment, _ :: cs => stripFrom .lineComment cs
  | .blockComment, '*' :: '/' :: cs => stripFrom .code cs
  | .blockComment, '\n' :: cs => '\n' :: stripFrom .blockComment cs
  | .blockComment, _ :: cs => stripFrom .blockComment cs
  | .literal, '\\' :: c :: cs => '\\' :: c :: stripFrom .literal cs
  | .literal, '"' :: cs => '"' :: stripFrom .code cs
  | .literal, '\n' :: cs => '\n' :: stripFrom .code cs
  | .literal, c :: cs => c :: stripFrom .literal cs
  | .longLiteral, '\\' :: c :: cs => '\\' :: c :: stripFrom .longLiteral cs
  | .longLiteral, '"' :: '"' :: '"' :: cs => '"' :: '"' :: '"' :: stripFrom .code cs
  | .longLiteral, c :: cs => c :: stripFrom .longLiteral cs

/-- The source text without its comments. -/
def stripComments (source : Text) : Text := stripFrom .code source

@[simp] theorem stripFrom_nil (m : Mode) : stripFrom m [] = [] := by
  cases m <;> rfl

end Source
end IconAssets
