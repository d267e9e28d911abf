import IconAssets.Text.Basic

/-!
# Texts for terminals

A text may hold codes that tell a terminal what to do: controls, and sequences that an escape
character opens.  Where there is no terminal the codes are left out.

A sequence that is broken by white space goes on behind it only if another control comes first: up
to there all that can be shown is kept.
-/

namespace IconAssets
namespace Text
namespace Terminal

/-- What the next character of a text belongs to. -/
inductive Context where
  /-- The text itself. -/
  | plain
  /-- What follows an escape character. -/
  | escape
  /-- An escape with a mark of its own, up to its last character. -/
  | marked
  /-- A control sequence: everything up to its last character. -/
  | control
  /-- A command for the system, which a bell ends. -/
  | command
  /-- The head of a string for a device, without numbers so far. -/
  | device
  /-- The numbers in the head of a string for a device. -/
  | deviceNumbers
  /-- The marks in the head of a string for a device. -/
  | deviceMarks
  /-- A string, which a string terminator ends. -/
  | string
  deriving DecidableEq, Repr

/-- The control that opens a sequence. -/
def escapeChar : Char := '\x1b'

/-- Whether a control breaks off every sequence. -/
def isCancel (c : Char) : Bool := c = '\x18' || c = '\x1a'

/-- Whether a control is white space, which is shown. -/
def isShownControl (c : Char) : Bool := c ∈ ['\t', '\n', '\x0c', '\r']

/-- Whether a character of the text itself is shown. -/
def isShown (c : Char) : Bool :=
  isShownControl c || (32 ≤ c.toNat && c.toNat ≤ 126) || 128 ≤ c.toNat

/-- Whether the string terminator is among the bytes of a character behind the first. -/
def holdsTerminator (c : Char) : Bool :=
  let n := c.toNat
  let parts := if n < 0x80 then [] else if n < 0x800 then [n] else if n < 0x10000 then [n, n / 64]
    else [n, n / 64, n / 4096]
  parts.any fun k => k % 64 = 0x1C

/-- Whether a character stands for a mark. -/
def isMark (c : Char) : Bool := 0x20 ≤ c.toNat && c.toNat ≤ 0x2F

/-- Whether a character stands for a digit, a sign between numbers or one in front of them. -/
def isNumeral (c : Char) : Bool := 0x30 ≤ c.toNat && c.toNat ≤ 0x3F

/-- Whether a character can be the last one of a control sequence. -/
def isFinal (c : Char) : Bool := 0x40 ≤ c.toNat && c.toNat ≤ 0x7E

namespace Context

/-- The context behind the first character of an escape. -/
def ofEscape (c : Char) : Context :=
  match c with
  | '[' => .control
  | ']' => .command
  | 'P' => .device
  | 'X' | '^' | '_' => .string
  | _ => if isMark c then .marked else if isNumeral c || isFinal c then .plain else .escape

/-- The context behind a character. -/
def next (k : Context) (c : Char) : Context :=
  if c = escapeChar then .escape
  else if isCancel c then .plain
  else
    match k with
    | .plain => .plain
    | .escape => ofEscape c
    | .marked => if isNumeral c || isFinal c then .plain else .marked
    | .control => if isFinal c then .plain else .control
    | .command => if c = '\x07' then .plain else .command
    | .device =>
      if isMark c then .deviceMarks else if isNumeral c then .deviceNumbers
      else if isFinal c then .string else .device
    | .deviceNumbers =>
      if isMark c then .deviceMarks else if isFinal c || 0x3C ≤ c.toNat && c.toNat ≤ 0x3F then .string
      else .deviceNumbers
    | .deviceMarks => if isNumeral c || isFinal c then .string else .deviceMarks
    | .string => if holdsTerminator c then .plain else .string

/-- Whether a character is shown in a context. -/
def shows (k : Context) (c : Char) : Bool :=
  match k with
  | .plain => isShown c
  | .escape | .marked | .control => isShownControl c
  | _ => false

end Context

/-- A text without codes, from a context on; `showing` says that the character in front has been
shown, so that the context only counts again behind the next code. -/
def strip (k : Context) (showing : Bool) : Text → Text
  | [] => []
  | c :: t =>
    if showing && isShown c then c :: strip (if c.toNat < 128 then k else .plain) true t
    else if k.shows c then c :: strip k true t
    else strip (k.next c) false t

/-- A text without codes. -/
def plain (t : Text) : Text := strip .plain false t

/-- The sequence that ends a change of style. -/
def reset : Text := [escapeChar, '[', '0', 'm']

/-- A text in a style of its own, as far as the style ends with it. -/
def styled (t : Text) : Text := t ++ reset

theorem shows_plain (c : Char) : Context.plain.shows c = isShown c := rfl

/-- A text that is shown as it is stays as it is. -/
theorem plain_of_shown {t : Text} (h : ∀ c ∈ t, isShown c = true) : plain t = t := by
  suffices ∀ showing, strip .plain showing t = t from this false
  induction t with
  | nil => intro _; rfl
  | cons c t ih =>
    intro showing
    have hc := h c (by simp)
    have ht := ih fun d hd => h d (by simp [hd])
    simp only [strip, shows_plain, hc, Bool.and_true, if_true]
    cases showing <;> simp [ht]

end Terminal
end Text
end IconAssets
