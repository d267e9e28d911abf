import IconAssets.Proofs.Json.Indented
import IconAssets.Proofs.Json.Members

/-!
# The grammar of JSON

Which texts are JSON, told by putting texts together, without limits on the depth of a value or on
the size of a number.  The readers take texts apart instead.

A value has no space around it.  What stands between brackets is a row of items or members, each
with its own space in front, and with space in front of each comma and of the closing bracket.

* `IsNumber`, `IsString`, `IsValue`: the grammar;
* `Spells`: the text that a string stands for;
* `HasItems`, `HasMembers`: documents that are an array or an object.
-/

namespace IconAssets
namespace Json

/-- Digits, at least one of them. -/
def IsDigits (t : Text) : Prop := t ≠ [] ∧ ∀ c ∈ t, c.isDigit = true

/-- The fraction of a number, if it has one. -/
def IsFraction (t : Text) : Prop := t = [] ∨ ∃ digits, IsDigits digits ∧ t = '.' :: digits

/-- The exponent of a number, if it has one. -/
def IsExponent (t : Text) : Prop :=
  t = [] ∨ ∃ e sign digits, (e = 'e' ∨ e = 'E') ∧ (sign = [] ∨ sign = ['+'] ∨ sign = ['-']) ∧
    IsDigits digits ∧ t = e :: (sign ++ digits)

/-- A number.  Its whole part starts with a zero only if this is all of it. -/
inductive IsNumber : Text → Prop
  | intro {sign whole fraction exponent : Text} (hsign : sign = [] ∨ sign = ['-'])
    (hwhole : IsDigits whole) (hzero : whole.head? = some '0' → whole = ['0'])
    (hfraction : IsFraction fraction) (hexponent : IsExponent exponent) :
    IsNumber (sign ++ (whole ++ (fraction ++ exponent)))

/-- What may stand in a string in one piece: a character, or an escape. -/
inductive IsStringPiece : Text → Prop
  | plain {c : Char} (hquote : c ≠ '"') (hbackslash : c ≠ '\\') (hcontrol : ¬c.toNat < 0x20) :
    IsStringPiece [c]
  | letter {c : Char} (h : (plainEscape? c).isSome = true) : IsStringPiece ['\\', c]
  | digits {t : Text} (hlength : t.length = 4) (h : (hexUnit? t).isSome = true) :
    IsStringPiece ('\\' :: 'u' :: t)

/-- What may stand between the quotes of a string. -/
inductive IsString : Text → Prop
  | nil : IsString []
  | cons {piece t : Text} (head : IsStringPiece piece) (tail : IsString t) : IsString (piece ++ t)

/-- A character of a string and how it is written: as itself, by a short escape, or by one or two
code units.  Halves of a pair of units stand for no character on their own. -/
inductive SpellsChar : Text → Char → Prop
  | plain {c : Char} (hquote : c ≠ '"') (hbackslash : c ≠ '\\') (hcontrol : ¬c.toNat < 0x20) :
    SpellsChar [c] c
  | letter {c d : Char} (h : plainEscape? c = some d) : SpellsChar ['\\', c] d
  | unit {t : Text} {n : Nat} (hlength : t.length = 4) (h : hexUnit? t = some n)
    (hlow : isLowSurrogate n = false) (hhigh : isHighSurrogate n = false) :
    SpellsChar ('\\' :: 'u' :: t) (Char.ofNat n)
  | pair {t u : Text} {high low : Nat} (hlength : t.length = 4) (h : hexUnit? t = some high)
    (hlength' : u.length = 4) (h' : hexUnit? u = some low)
    (hhigh : isHighSurrogate high = true) (hlow : isLowSurrogate low = true) :
    SpellsChar ('\\' :: 'u' :: (t ++ '\\' :: 'u' :: u))
      (Char.ofNat (0x10000 + (high - 0xD800) * 0x400 + (low - 0xDC00)))

/-- What stands between the quotes of a string, and the text that it stands for. -/
inductive Spells : Text → Text → Prop
  | nil : Spells [] []
  | cons {piece t : Text} {c : Char} {cs : Text} (head : SpellsChar piece c) (tail : Spells t cs) :
    Spells (piece ++ t) (c :: cs)

/-- A text between quotes. -/
def inQuotes (t : Text) : Text := '"' :: (t ++ ['"'])

/-- An item of an array, with the space in front of it. -/
structure Element where
  space : Text
  value : Text
  blank_space : Blank space

def Element.text (i : Element) : Text := i.space ++ i.value

/-- A member of an object, with the space in front of it. -/
structure Member where
  space : Text
  /-- What stands between the quotes of the key. -/
  key : Text
  /-- The space in front of the colon. -/
  gap : Text
  item : Element
  blank_space : Blank space
  blank_gap : Blank gap

def Member.text (m : Member) : Text := m.space ++ (inQuotes m.key ++ (m.gap ++ ':' :: m.item.text))

/-- What stands in front of an item or a member: nothing if it is the first, and else a comma. -/
def IsSeparator : Bool → Text → Prop
  | true, t => t = []
  | false, t => ∃ space, Blank space ∧ t = space ++ [',']

/-- What stands between brackets: the given items or members, and space behind them. -/
inductive IsRow : Bool → List Text → Text → Prop
  | nil {first : Bool} {space : Text} (h : Blank space) : IsRow first [] space
  | cons {first : Bool} {separator t : Text} {ts : List Text} {row : Text}
    (hseparator : IsSeparator first separator) (tail : IsRow false ts row) :
    IsRow first (t :: ts) (separator ++ (t ++ row))

/-- A value. -/
inductive IsValue : Text → Prop
  | word {t : Text} (h : t = "null".toList ∨ t = "true".toList ∨ t = "false".toList) : IsValue t
  | number {t : Text} (h : IsNumber t) : IsValue t
  | string {t : Text} (h : IsString t) : IsValue (inQuotes t)
  | array {items : List Element} {row : Text} (hrow : IsRow true (items.map Element.text) row)
    (h : ∀ i ∈ items, IsValue i.value) : IsValue ('[' :: (row ++ [']']))
  | object {members : List Member} {row : Text} (hrow : IsRow true (members.map Member.text) row)
    (hkeys : ∀ m ∈ members, IsString m.key) (h : ∀ m ∈ members, IsValue m.item.value) :
    IsValue ('\x7b' :: (row ++ ['\x7d']))

/-- A text is a value with space around it. -/
def IsDocument (t value : Text) : Prop :=
  ∃ space space', Blank space ∧ Blank space' ∧ t = space ++ (value ++ space')

/-- A text is an array of the given values. -/
def HasItems (t : Text) (values : List Text) : Prop :=
  ∃ (items : List Element) (row : Text), IsDocument t ('[' :: (row ++ [']'])) ∧
    IsRow true (items.map Element.text) row ∧ items.map Element.value = values ∧
      ∀ v ∈ values, IsValue v

/-- What a member stands for: the text that its key spells, and its value. -/
def Member.Holds (m : Member) (entry : Text × Text) : Prop :=
  Spells m.key entry.1 ∧ m.item.value = entry.2 ∧ IsValue entry.2

/-- A text is an object with the given members: texts that the keys spell, and values. -/
def HasMembers (t : Text) (entries : List (Text × Text)) : Prop :=
  ∃ (members : List Member) (row : Text), IsDocument t ('\x7b' :: (row ++ ['\x7d'])) ∧
    IsRow true (members.map Member.text) row ∧ List.Forall₂ Member.Holds members entries

theorem isValue_of_hasItems {t : Text} {values : List Text} (h : HasItems t values) :
    ∀ v ∈ values, IsValue v := by
  obtain ⟨_, _, _, _, _, hvalues⟩ := h
  exact hvalues

theorem isValue_of_hasMembers {t : Text} {entries : List (Text × Text)} (h : HasMembers t entries) :
    ∀ e ∈ entries, IsValue e.2 := by
  obtain ⟨members, row, -, -, hentries⟩ := h
  clear row
  induction hentries with
  | nil =>
      exact fun _ he => absurd he List.not_mem_nil
  | cons hm _ ih =>
      exact List.forall_mem_cons.mpr ⟨hm.2.2, ih⟩

/-!
## Strings as they are read

The reader of strings takes just what the grammar calls a spelling of a text, up to the closing
quote.  It is told how many characters an escape has taken, so what is shown of it is about a string
behind characters that are left out.

* `readPair_eq_ok_iff`, `readCodePoint_eq_ok_iff`, `spellsChar_of_readEscape`: escapes;
* `readChars_of_spellsChar`, `spells_of_readChars`: one character, and all of them;
* `readString_eq_ok_iff`: strings.
-/

section

variable {t rest : Text}

/-- Four hexadecimal digits stand at the start of a text. -/
theorem hexUnit?_eq_some {n : Nat} (h : hexUnit? t = some n) :
    ∃ digits rest, t = digits ++ rest ∧ digits.length = 4 ∧ hexUnit? digits = some n := by
  match t, h with
  | a :: b :: c :: d :: rest, h => exact ⟨[a, b, c, d], rest, rfl, rfl, h⟩

theorem hexUnit?_append {digits : Text} (h : digits.length = 4) (rest : Text) :
    hexUnit? (digits ++ rest) = hexUnit? digits := by
  match digits, h with
  | [a, b, c, d], _ => rfl

theorem readUnit_eq_ok_iff {n : Nat} : readUnit t = .ok n ↔ hexUnit? t = some n := by
  unfold readUnit
  cases hexUnit? t with
  | some m =>
      simp
  | none =>
      simp only [reduceCtorEq, iff_false]
      split <;> simp

/-- Characters that an escape has taken are left out. -/
theorem readChars_append {n : Nat} {taken : Text} (h : taken.length = n) (t : Text) :
    readChars n (taken ++ t) = readChars 0 t := by
  subst h
  induction taken with
  | nil =>
      rfl
  | cons c cs ih =>
      rw [List.length_cons, List.cons_append, readChars, ih]

theorem skipChars_append {n : Nat} {taken : Text} (h : taken.length = n) (t : Text) :
    skipChars n (taken ++ t) = skipChars 0 t := by
  subst h
  induction taken with
  | nil =>
      rfl
  | cons c cs ih =>
      rw [List.length_cons, List.cons_append, skipChars, ih]

/-- Behind a backslash and the letter, the second half of a pair is read from four digits. -/
theorem readPair_cons (high : Nat) (t : Text) :
    readPair high ('\\' :: 'u' :: t) =
      match readUnit t with
      | .error e => .error e
      | .ok low =>
        if isLowSurrogate low = true then
          .ok (Char.ofNat (0x10000 + (high - 0xD800) * 0x400 + (low - 0xDC00)), 11)
        else .error (stopPast 4 .loneSurrogate t) := by
  rw [readPair, if_neg (not_not_intro rfl), if_neg (not_not_intro rfl)]
  cases readUnit t <;> rfl

theorem exists_of_readPair {high : Nat} {r : Char × Nat} (h : readPair high t = .ok r) :
    ∃ u, t = '\\' :: 'u' :: u := by
  unfold readPair at h
  split at h
  · cases h
  · next d t =>
    split_ifs at h with hd
    rw [not_not] at hd
    subst hd
    split at h
    · cases h
    · next e u =>
      split_ifs at h with he
      rw [not_not] at he
      exact ⟨u, by rw [he]⟩

/-- The second half of a pair follows as an escape of its own. -/
theorem readPair_eq_ok_iff {high : Nat} {c : Char} {n : Nat} :
    readPair high t = .ok (c, n) ↔
      ∃ u rest low, t = '\\' :: 'u' :: (u ++ rest) ∧ u.length = 4 ∧ hexUnit? u = some low ∧
        isLowSurrogate low = true ∧ n = 11 ∧
          c = Char.ofNat (0x10000 + (high - 0xD800) * 0x400 + (low - 0xDC00)) := by
  constructor
  · intro h
    obtain ⟨u, rfl⟩ := exists_of_readPair h
    rw [readPair_cons] at h
    split at h
    · cases h
    · next low hunit =>
      split_ifs at h with hlow
      obtain ⟨digits, rest, rfl, hlength, hdigits⟩ :=
        hexUnit?_eq_some (readUnit_eq_ok_iff.mp hunit)
      obtain ⟨hc, hn⟩ := Prod.mk.inj (Except.ok.inj h)
      exact ⟨digits, rest, low, rfl, hlength, hdigits, hlow, hn.symm, hc.symm⟩
  · rintro ⟨u, rest, low, rfl, hlength, hunit, hlow, hn, hc⟩
    have hread : readUnit (u ++ rest) = .ok low := by
      rw [readUnit_eq_ok_iff, hexUnit?_append hlength, hunit]
    rw [readPair_cons, hread, hn, hc]
    exact if_pos hlow

/-- An escape of four digits is one code unit, or the first of two. -/
theorem readCodePoint_eq_ok_iff {c : Char} {n : Nat} :
    readCodePoint t = .ok (c, n) ↔
      ∃ digits rest unit, t = digits ++ rest ∧ digits.length = 4 ∧ hexUnit? digits = some unit ∧
        isLowSurrogate unit = false ∧
          if isHighSurrogate unit = true then readPair unit rest = .ok (c, n)
          else c = Char.ofNat unit ∧ n = 5 := by
  unfold readCodePoint
  constructor
  · intro h
    cases hunit : readUnit t with
    | error e =>
        rw [hunit] at h
        cases h
    | ok unit =>
        rw [hunit] at h
        change (if isLowSurrogate unit = true then _ else _) = _ at h
        obtain ⟨digits, rest, rfl, hlength, hdigits⟩ :=
          hexUnit?_eq_some (readUnit_eq_ok_iff.mp hunit)
        split at h
        · cases h
        · next hlow =>
          refine ⟨digits, rest, unit, rfl, hlength, hdigits, by simpa using hlow, ?_⟩
          split at h
          · next hhigh =>
            rw [if_pos hhigh, ← h, ← hlength, List.drop_left]
          · next hhigh =>
            rw [if_neg hhigh]
            cases h
            exact ⟨rfl, rfl⟩
  · rintro ⟨digits, rest, unit, rfl, hlength, hdigits, hlow, h⟩
    have hread : readUnit (digits ++ rest) = .ok unit := by
      rw [readUnit_eq_ok_iff, hexUnit?_append hlength, hdigits]
    rw [hread]
    change (if isLowSurrogate unit = true then _ else _) = _
    rw [if_neg (by simp [hlow])]
    by_cases hhigh : isHighSurrogate unit = true
    · rw [if_pos hhigh] at h ⊢
      rw [← hlength, List.drop_left, h]
    · rw [if_neg hhigh] at h ⊢
      rw [h.1, h.2]

/-- What is read behind a backslash is the rest of an escape. -/
theorem spellsChar_of_readEscape {c : Char} {n : Nat} (h : readEscape t = .ok (c, n)) :
    ∃ taken rest, t = taken ++ rest ∧ taken.length = n ∧ SpellsChar ('\\' :: taken) c := by
  unfold readEscape at h
  split at h
  · cases h
  · next d t =>
    split at h
    · next e hletter =>
      obtain ⟨rfl, rfl⟩ := Prod.mk.inj (Except.ok.inj h)
      exact ⟨[d], t, rfl, rfl, .letter hletter⟩
    · split_ifs at h with hu
      subst hu
      obtain ⟨digits, rest, unit, rfl, hlength, hdigits, hlow, hunit⟩ :=
        readCodePoint_eq_ok_iff.mp h
      split_ifs at hunit with hhigh
      · obtain ⟨second, rest, low, rfl, hlength', hdigits', hlow', hn, hc⟩ :=
          readPair_eq_ok_iff.mp hunit
        rw [hn, hc]
        refine ⟨'u' :: (digits ++ '\\' :: 'u' :: second), rest, by simp, by simp [*],
          .pair hlength hdigits hlength' hdigits' hhigh hlow'⟩
      · obtain ⟨rfl, rfl⟩ := hunit
        exact ⟨'u' :: digits, rest, rfl, by simp [hlength],
          .unit hlength hdigits hlow (by simpa using hhigh)⟩

theorem not_isLowSurrogate_of_isHighSurrogate {n : Nat} (h : isHighSurrogate n = true) :
    isLowSurrogate n = false := by
  simp only [isHighSurrogate, isLowSurrogate, Bool.and_eq_true, decide_eq_true_eq] at h ⊢
  simp
  omega

/-- A character is read as it is spelled, whatever stands behind it. -/
theorem readChars_of_spellsChar {piece : Text} {c : Char} (h : SpellsChar piece c) (t : Text) :
    readChars 0 (piece ++ t) = (readChars 0 t).map fun r => (c :: r.1, r.2) := by
  cases h with
  | plain hquote hbackslash hcontrol =>
      rw [List.singleton_append, readChars, if_neg hquote, if_neg hbackslash, if_neg hcontrol]
  | letter h =>
      exact readChars_plainEscape h t
  | @unit digits n hlength h hlow hhigh =>
      have hread : readEscape ('u' :: (digits ++ t)) = .ok (Char.ofNat n, 5) :=
        readCodePoint_eq_ok_iff.mpr ⟨digits, t, n, rfl, hlength, h, hlow, by simp [hhigh]⟩
      have htaken : readChars 5 ('u' :: digits ++ t) = readChars 0 t :=
        readChars_append (by simp [hlength]) t
      rw [List.cons_append, List.cons_append, readChars_backslash hread, ← List.cons_append, htaken]
  | @pair first second high low hlength h hlength' h' hhigh hlow =>
      obtain ⟨c, hc⟩ : ∃ c, c = Char.ofNat (0x10000 + (high - 0xD800) * 0x400 + (low - 0xDC00)) :=
        ⟨_, rfl⟩
      have hpair : readPair high ('\\' :: 'u' :: (second ++ t)) = .ok (c, 11) :=
        readPair_eq_ok_iff.mpr ⟨second, t, low, rfl, hlength', h', hlow, rfl, hc⟩
      have hread : readEscape ('u' :: (first ++ '\\' :: 'u' :: (second ++ t))) = .ok (c, 11) :=
        readCodePoint_eq_ok_iff.mpr ⟨first, _, high, rfl, hlength, h,
          not_isLowSurrogate_of_isHighSurrogate hhigh, by rw [if_pos hhigh, hpair]⟩
      have htaken : readChars 11 (('u' :: (first ++ '\\' :: 'u' :: second)) ++ t) = readChars 0 t :=
        readChars_append (by simp [hlength, hlength']) t
      simp only [List.append_assoc, List.cons_append] at htaken ⊢
      rw [← hc, readChars_backslash hread, htaken]

/-- A string is read by what is left of it behind the characters that are left out. -/
theorem spells_of_readChars {n : Nat} {text : Text} (h : readChars n t = .ok (text, rest)) :
    ∃ taken s, taken.length = n ∧ Spells s text ∧ t = taken ++ (s ++ '"' :: rest) := by
  -- The reader goes on character by character even behind an escape, of which it leaves out `n`.
  induction t generalizing n text with
  | nil =>
      cases n <;> cases h
  | cons c t ih =>
      cases n with
      | succ n =>
          obtain ⟨taken, s, rfl, hs, rfl⟩ := ih h
          exact ⟨c :: taken, s, rfl, hs, rfl⟩
      | zero =>
          refine ⟨[], ?_⟩
          rw [readChars] at h
          split_ifs at h with hquote hbackslash hcontrol
          · cases h
            exact ⟨[], rfl, .nil, by rw [hquote]; rfl⟩
          · split at h
            · cases h
            · next d n hescape =>
              obtain ⟨⟨text', rest'⟩, htail, heq⟩ := map_eq_ok_iff.mp h
              cases heq
              obtain ⟨taken, s, hlength, hs, rfl⟩ := ih htail
              obtain ⟨taken', rest', heq, hlength', hd⟩ := spellsChar_of_readEscape hescape
              obtain ⟨rfl, -⟩ := List.append_inj heq (hlength.trans hlength'.symm)
              exact ⟨'\\' :: taken ++ s, rfl, .cons hd hs, by rw [hbackslash]; simp⟩
          · obtain ⟨⟨text', rest'⟩, htail, heq⟩ := map_eq_ok_iff.mp h
            cases heq
            obtain ⟨taken, s, hlength, hs, rfl⟩ := ih htail
            obtain rfl := List.length_eq_zero_iff.mp hlength
            exact ⟨c :: s, rfl, .cons (.plain hquote hbackslash hcontrol) hs, rfl⟩

/-- **A string is read just if it stands for a text.** -/
theorem readString_eq_ok_iff {text : Text} :
    readString t = .ok (text, rest) ↔ ∃ s, Spells s text ∧ t = s ++ '"' :: rest := by
  unfold readString
  constructor
  · intro h
    obtain ⟨taken, s, hlength, hs, rfl⟩ := spells_of_readChars h
    obtain rfl := List.length_eq_zero_iff.mp hlength
    exact ⟨s, hs, rfl⟩
  · rintro ⟨s, hs, rfl⟩
    induction hs with
    | nil =>
        rw [List.nil_append, readChars, if_pos rfl]
    | cons head tail ih =>
        rw [List.append_assoc, readChars_of_spellsChar head, ih]
        rfl

end

end Json
end IconAssets
