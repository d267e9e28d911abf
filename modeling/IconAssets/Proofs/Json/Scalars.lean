import IconAssets.Json.Printer
import IconAssets.Json.Record

/-!
# Strings and integers that are read back

## Strings

Each character of a printed string is read back, escaped or not, whatever stands behind it.

* `readChars_escapeChar`: one character;
* `readString_print`: a string up to its closing quote.
-/

namespace IconAssets
namespace Json

theorem hexDigit?_digitChar : ∀ n < 16, hexDigit? (Nat.digitChar n) = some n := by
  decide

theorem hexUnit?_escapeDigits {n : Nat} (h : n < 65536) (rest : Text) :
    hexUnit? (escapeDigits n ++ rest) = some n := by
  have hdigit : ∀ k, hexDigit? (Nat.digitChar (k % 16)) = some (k % 16) := fun k =>
    hexDigit?_digitChar _ (Nat.mod_lt k (by decide))
  unfold escapeDigits
  simp only [List.cons_append, hexUnit?, hdigit, Option.some_inj]
  omega

/-- A control character is read back from the escape of four digits. -/
theorem readEscape_control {c : Char} (h : c.toNat < 0x20) (rest : Text) :
    readEscape ('u' :: escapeDigits c.toNat ++ rest) = .ok (c, 5) := by
  have hunit : readUnit (escapeDigits c.toNat ++ rest) = .ok c.toNat := by
    rw [readUnit, hexUnit?_escapeDigits (by omega)]
  have hlow : isLowSurrogate c.toNat = false := by
    simp [isLowSurrogate]
    omega
  have hhigh : isHighSurrogate c.toNat = false := by
    simp [isHighSurrogate]
    omega
  have hpoint : readCodePoint (escapeDigits c.toNat ++ rest) = .ok (c, 5) := by
    unfold readCodePoint
    rw [hunit]
    change (if isLowSurrogate c.toNat then _ else _) = _
    rw [hlow, hhigh, Char.ofNat_toNat]
    rfl
  exact hpoint

/-- An escape is read by what stands behind the backslash. -/
theorem readChars_backslash {c : Char} {n : Nat} {t : Text} (h : readEscape t = .ok (c, n)) :
    readChars 0 ('\\' :: t) = (readChars n t).map fun r => (c :: r.1, r.2) := by
  rw [readChars, if_neg (by decide), if_pos rfl, h]

/-- The letter of a short escape is read as the character it stands for. -/
theorem readChars_plainEscape {c d : Char} (h : plainEscape? d = some c) (rest : Text) :
    readChars 0 ('\\' :: d :: rest) = (readChars 0 rest).map fun r => (c :: r.1, r.2) := by
  have hescape : readEscape (d :: rest) = .ok (c, 1) := by
    simp only [readEscape, h]
  rw [readChars_backslash hescape, readChars]

theorem readChars_escapeChar (c : Char) (rest : Text) :
    readChars 0 (escapeChar c ++ rest) = (readChars 0 rest).map fun r => (c :: r.1, r.2) := by
  unfold escapeChar
  split
  · next h => subst h; exact readChars_plainEscape rfl rest
  split
  · next h => subst h; exact readChars_plainEscape rfl rest
  split
  · next h => subst h; exact readChars_plainEscape rfl rest
  split
  · next h => subst h; exact readChars_plainEscape rfl rest
  split
  · next h => subst h; exact readChars_plainEscape rfl rest
  split
  · next h => subst h; exact readChars_plainEscape rfl rest
  split
  · next h => subst h; exact readChars_plainEscape rfl rest
  split
  · next hcontrol => exact readChars_backslash (readEscape_control hcontrol rest)
  · next hquote hbackslash _ _ _ _ _ hprintable =>
    rw [List.singleton_append, readChars, if_neg hquote, if_neg hbackslash, if_neg hprintable]

/-- A printed string is read back up to its closing quote. -/
theorem readString_print (t rest : Text) :
    readString (t.flatMap escapeChar ++ '"' :: rest) = .ok (t, rest) := by
  unfold readString
  induction t with
  | nil =>
      rw [List.flatMap_nil, List.nil_append, readChars, if_pos rfl]
  | cons c cs ih =>
      rw [List.flatMap_cons, List.append_assoc, readChars_escapeChar, ih]
      rfl

/-!
## Integers

The digits of a natural number of 64 bits are collected to the number again, as long as nothing that
belongs to a number stands behind them.

* `addDigits_append`: digits that fit are all added;
* `readNumber_ofNat`: a printed natural number;
* `readWord32_print`: a printed number of 32 bits.
-/

/-- A text that cannot be the continuation of a number. -/
def EndsNumber (rest : Text) : Prop :=
  startsWithDigit rest = false ∧ startsWithExponent rest = false ∧ rest.head? ≠ some '.'

/-- Collecting digits does not make a number smaller. -/
theorem le_ofDigitChars (n : Nat) (ds : Text) : n ≤ Nat.ofDigitChars 10 ds n := by
  induction ds generalizing n with
  | nil =>
      simp
  | cons d ds ih =>
      rw [Nat.ofDigitChars_cons]
      exact Nat.le_trans (by omega) (ih _)

/-- Digits that fit into 64 bits are all added. -/
theorem addDigits_append {n : Nat} {ds rest : Text} (hds : ∀ c ∈ ds, c.isDigit = true)
    (hfits : Nat.ofDigitChars 10 ds n < Nat.pow 2 64) (hrest : startsWithDigit rest = false) :
    addDigits n (ds ++ rest) = (Nat.ofDigitChars 10 ds n, rest) := by
  induction ds generalizing n with
  | nil =>
      cases rest with
      | nil =>
          rfl
      | cons c cs =>
          have hc : c.isDigit = false := hrest
          simp [addDigits, hc]
  | cons d ds ih =>
      rw [Nat.ofDigitChars_cons] at hfits ⊢
      have hd : d.isDigit = true := hds d (by simp)
      have hvalue : n * 10 + digitValue d = 10 * n + (d.toNat - '0'.toNat) := by
        rw [digitValue, Nat.mul_comm]
      have hsmall : n * 10 + digitValue d < Nat.pow 2 64 := by
        rw [hvalue]
        exact Nat.lt_of_le_of_lt (le_ofDigitChars _ ds) hfits
      rw [List.cons_append, addDigits, if_pos (by simp [hd, hsmall]), hvalue]
      exact ih (fun c hc => hds c (List.mem_cons_of_mem _ hc)) hfits

/-- The digits of a number are a single zero, or start with another digit. -/
theorem toDigits_cases (n : Nat) :
    (n = 0 ∧ Nat.toDigits 10 n = ['0']) ∨ ∃ d ds, Nat.toDigits 10 n = d :: ds ∧ d ≠ '0' := by
  induction n using Nat.strongRecOn with
  | ind n ih =>
      by_cases hsmall : n < 10
      · rw [Nat.toDigits_of_lt_base hsmall]
        by_cases hzero : n = 0
        · subst hzero
          exact Or.inl ⟨rfl, rfl⟩
        · have hdigit : ∀ k < 10, k ≠ 0 → Nat.digitChar k ≠ '0' := by decide
          exact Or.inr ⟨_, [], rfl, hdigit n hsmall hzero⟩
      · rw [Nat.toDigits_of_base_le (by decide) (by omega)]
        rcases ih (n / 10) (by omega) with ⟨hzero, -⟩ | ⟨d, ds, hds, hd⟩
        · omega
        · exact Or.inr ⟨d, ds ++ [Nat.digitChar (n % 10)], by rw [hds, List.cons_append], hd⟩

/-- A number that ends behind its integer part is an integer. -/
theorem readTail_of_ends {n : Nat} {rest : Text} (h : EndsNumber rest) :
    readTail false n rest = .ok (.integer n, rest) := by
  obtain ⟨-, hexponent, hpoint⟩ := h
  simp [readTail, hexponent, hpoint]

/-- A printed natural number of 64 bits is read back. -/
theorem readNumber_ofNat {n : Nat} {rest : Text} (hn : n < Nat.pow 2 64) (hrest : EndsNumber rest) :
    readNumber (Text.ofNat n ++ rest) = .ok (.integer n, rest) := by
  unfold Text.ofNat
  have hvalue : Nat.ofDigitChars 10 (Nat.toDigits 10 n) 0 = n := Nat.ofDigitChars_ten_toDigits
  have hdigits : ∀ c ∈ Nat.toDigits 10 n, c.isDigit = true := fun c hc =>
    Nat.isDigit_of_mem_toDigits (by decide) (by decide) hc
  rcases toDigits_cases n with ⟨rfl, hzero⟩ | ⟨d, ds, hds, hd⟩
  · rw [hzero, List.singleton_append, readNumber, if_neg (by decide), readMagnitude, if_pos rfl,
      hrest.1]
    exact readTail_of_ends hrest
  · rw [hds] at hvalue hdigits ⊢
    have hdigit : d.isDigit = true := hdigits d (by simp)
    have hminus : d ≠ '-' := by
      rintro rfl
      exact absurd hdigit (by decide)
    rw [Nat.ofDigitChars_cons] at hvalue
    have hstart : 10 * 0 + (d.toNat - '0'.toNat) = digitValue d := by simp [digitValue]
    rw [hstart] at hvalue
    have hcollect := addDigits_append (n := digitValue d)
      (fun c hc => hdigits c (List.mem_cons_of_mem _ hc)) (by rwa [hvalue]) hrest.1
    rw [hvalue] at hcollect
    rw [List.cons_append, readNumber, if_neg hminus, readMagnitude, if_neg hd, if_pos hdigit,
      hcollect]
    dsimp only
    rw [hrest.1]
    exact readTail_of_ends hrest

theorem exists_digit_cons (n : Nat) : ∃ d ds, Text.ofNat n = d :: ds ∧ d.isDigit = true := by
  obtain ⟨d, ds, hds⟩ := List.exists_cons_of_ne_nil (@Nat.toDigits_ne_nil n 10)
  have hmem : d ∈ Nat.toDigits 10 n := by simp [hds]
  exact ⟨d, ds, hds, Nat.isDigit_of_mem_toDigits (by decide) (by decide) hmem⟩

theorem not_isSpace_of_isDigit {d : Char} (h : d.isDigit = true) : isSpace d = false := by
  cases hspace : isSpace d with
  | false =>
      rfl
  | true =>
      simp only [isSpace, Bool.or_eq_true, decide_eq_true_eq] at hspace
      rcases hspace with ((rfl | rfl) | rfl) | rfl <;> exact absurd h (by decide)

/-- A printed number of 32 bits is read back. -/
theorem readWord32_print {n : UInt32} {rest : Text} (hrest : EndsNumber rest) :
    readWord32 (printInteger n.toNat ++ rest) = .ok (n, rest) := by
  have hbound : n.toNat < 2 ^ 32 := n.toNat_lt
  have hprint : printInteger n.toNat = Text.ofNat n.toNat := by simp [printInteger]
  have hread := readNumber_ofNat (n := n.toNat) (Nat.lt_trans hbound (by decide)) hrest
  obtain ⟨d, ds, hds, hdigit⟩ := exists_digit_cons n.toNat
  rw [hprint]
  rw [hds, List.cons_append] at hread ⊢
  have hstarts : startsNumber d = true := by simp [startsNumber, hdigit]
  have hfits : (0 ≤ (n.toNat : Int) && (n.toNat : Int) < Nat.pow 2 32) = true := by
    simp
    omega
  unfold readWord32
  rw [skipSpace_cons_of_not (not_isSpace_of_isDigit hdigit)]
  dsimp only
  rw [if_pos hstarts, hread]
  dsimp only
  rw [if_pos hfits]
  simp

end Json
end IconAssets
