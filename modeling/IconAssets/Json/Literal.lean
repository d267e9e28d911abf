import IconAssets.Json.Fault

/-!
# Reading words and strings

The leaves of the grammar that are made of characters: the space between tokens, the three words,
and strings.  A reader is given the text behind the character that told which leaf it is.

A string is read in one pass over its characters.  An escape stands for one character and takes
several of the text; `readChars` is told how many of them are still to be left out.
-/

namespace IconAssets
namespace Json

/-- The characters that may stand between two tokens. -/
def isSpace (c : Char) : Bool := c = ' ' || c = '\n' || c = '\t' || c = '\r'

/-- The text from its first token. -/
def skipSpace (t : Text) : Text := t.dropWhile isSpace

@[simp] theorem skipSpace_nil : skipSpace [] = [] := rfl

/-- A text that starts with a token is left as it is. -/
theorem skipSpace_cons_of_not {c : Char} (h : isSpace c = false) (t : Text) :
    skipSpace (c :: t) = c :: t := by
  simp [skipSpace, h]

/-- Space in front of a text is skipped. -/
theorem skipSpace_append {space : Text} (h : ∀ c ∈ space, isSpace c = true) (t : Text) :
    skipSpace (space ++ t) = skipSpace t := by
  induction space with
  | nil => rfl
  | cons c cs ih =>
    have hc : isSpace c = true := h c (by simp)
    have := ih fun d hd => h d (by simp [hd])
    simpa [skipSpace, hc] using this

/-- The rest of a word, one character after the other. -/
def readWord : Text → Text → Except Stop Text
  | [], t => .ok t
  | _ :: _, [] => .error (stopAt .endInValue [])
  | w :: ws, c :: t =>
    if c = w then readWord ws t else .error (stopPast 1 .expectedWord (c :: t))

/-- The value of a hexadecimal digit. -/
def hexDigit? (c : Char) : Option Nat :=
  if '0' ≤ c && c ≤ '9' then some (c.toNat - '0'.toNat)
  else if 'a' ≤ c && c ≤ 'f' then some (c.toNat - 'a'.toNat + 10)
  else if 'A' ≤ c && c ≤ 'F' then some (c.toNat - 'A'.toNat + 10)
  else none

/-- The value of four hexadecimal digits at the start of a text. -/
def hexUnit? : Text → Option Nat
  | a :: b :: c :: d :: _ =>
    match hexDigit? a, hexDigit? b, hexDigit? c, hexDigit? d with
    | some a, some b, some c, some d => some (((a * 16 + b) * 16 + c) * 16 + d)
    | _, _, _, _ => none
  | _ => none

/-- The code unit that an escape of four digits spells. -/
def readUnit (t : Text) : Except Stop Nat :=
  match hexUnit? t with
  | some n => .ok n
  | none =>
    if Text.byteLength t < 4 then .error ⟨.endInString, 0⟩
    else .error (stopPast 4 .invalidEscape t)

/-- Whether a code unit is the second half of a pair. -/
def isLowSurrogate (n : Nat) : Bool := 0xDC00 ≤ n && n ≤ 0xDFFF

/-- Whether a code unit is the first half of a pair. -/
def isHighSurrogate (n : Nat) : Bool := 0xD800 ≤ n && n ≤ 0xDBFF

/-- The second half of a pair, which has to follow the first half at once. -/
def readPair (high : Nat) : Text → Except Stop (Char × Nat)
  | [] => .error ⟨.endInString, 0⟩
  | c :: t =>
    if c ≠ '\\' then .error (stopPast 1 .unpairedSurrogate (c :: t))
    else
      match t with
      | [] => .error ⟨.endInString, 0⟩
      | d :: u =>
        if d ≠ 'u' then .error (stopPast 1 .unpairedSurrogate (d :: u))
        else do
          let low ← readUnit u
          if isLowSurrogate low then
            .ok (Char.ofNat (0x10000 + (high - 0xD800) * 0x400 + (low - 0xDC00)), 11)
          else .error (stopPast 4 .loneSurrogate u)

/-- The character behind an escape of four digits, and how many characters of the text spell it
together with the `u`. -/
def readCodePoint (t : Text) : Except Stop (Char × Nat) := do
  let n ← readUnit t
  if isLowSurrogate n then .error (stopPast 4 .loneSurrogate t)
  else if isHighSurrogate n then readPair n (t.drop 4)
  else .ok (Char.ofNat n, 5)

/-- The character that a letter behind a backslash stands for. -/
def plainEscape? (c : Char) : Option Char :=
  if c = '"' then some '"'
  else if c = '\\' then some '\\'
  else if c = '/' then some '/'
  else if c = 'b' then some '\x08'
  else if c = 'f' then some '\x0c'
  else if c = 'n' then some '\n'
  else if c = 'r' then some '\r'
  else if c = 't' then some '\t'
  else none

/-- The character that the text behind a backslash spells, and how many characters spell it. -/
def readEscape : Text → Except Stop (Char × Nat)
  | [] => .error ⟨.endInString, 0⟩
  | c :: t =>
    match plainEscape? c with
    | some d => .ok (d, 1)
    | none =>
      if c = 'u' then readCodePoint t else .error (stopPast 1 .invalidEscape (c :: t))

/-- The rest of a string and the text behind it, leaving out the next `skip` characters. -/
def readChars : Nat → Reader Text
  | _, [] => .error ⟨.endInString, 0⟩
  | skip + 1, _ :: t => readChars skip t
  | 0, c :: t =>
    if c = '"' then .ok ([], t)
    else if c = '\\' then
      match readEscape t with
      | .error e => .error e
      | .ok (d, n) => (readChars n t).map fun r => (d :: r.1, r.2)
    else if c.toNat < 0x20 then .error (stopPast 1 .controlCharacter (c :: t))
    else (readChars 0 t).map fun r => (c :: r.1, r.2)

/-- A string and the text behind it. -/
def readString : Reader Text := readChars 0

/-- The text behind a string that nobody wants: surrogates need no partner, and a control
character is pointed at and not passed. -/
def skipChars : Nat → Text → Except Stop Text
  | _, [] => .error ⟨.endInString, 0⟩
  | skip + 1, _ :: t => skipChars skip t
  | 0, c :: t =>
    if c = '"' then .ok t
    else if c = '\\' then
      match t with
      | [] => .error ⟨.endInString, 0⟩
      | d :: u =>
        if (plainEscape? d).isSome then skipChars 1 t
        else if d = 'u' then
          match readUnit u with
          | .error e => .error e
          | .ok _ => skipChars 5 t
        else .error (stopPast 1 .invalidEscape t)
    else if c.toNat < 0x20 then .error (stopAt .controlCharacter (c :: t))
    else skipChars 0 t

/-- The text behind a string that nobody wants. -/
def skipString : Text → Except Stop Text := skipChars 0

end Json
end IconAssets
