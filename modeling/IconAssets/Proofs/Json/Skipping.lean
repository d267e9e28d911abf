import IconAssets.Proofs.Json.Grammar
import Mathlib.Data.List.TakeWhile

/-!
# Strings and numbers that nobody wants

A string that is skipped may hold escapes that stand for no text, and a number may be of any size.
A number is skipped as far as it goes: nothing that belongs to a number may stand behind it.

* `skipString_eq_ok_iff`: strings;
* `exists_isNumber_of_skipNumber`, `skipNumber_append`: numbers.
-/

namespace IconAssets
namespace Json

variable {t rest : Text}

/-- One more character that is spelled out makes a longer string. -/
theorem SpellsChar.isString_append {piece : Text} {c : Char} (h : SpellsChar piece c)
    (ht : IsString t) : IsString (piece ++ t) := by
  cases h with
  | plain hquote hbackslash hcontrol =>
      exact .cons (.plain hquote hbackslash hcontrol) ht
  | letter h =>
      exact .cons (.letter (by simp [h])) ht
  | unit hlength h _ _ =>
      exact .cons (.digits hlength (by simp [h])) ht
  | pair hlength h hlength' h' _ _ =>
      have hpair := IsString.cons (.digits hlength (by simp [h]))
        (.cons (.digits hlength' (by simp [h'])) ht)
      simpa using hpair

/-- What stands for a text is a string. -/
theorem Spells.isString {s text : Text} (h : Spells s text) : IsString s := by
  induction h with
  | nil =>
      exact .nil
  | cons head _ ih =>
      exact head.isString_append ih

/-- A string is skipped by what is left of it behind the characters that are left out. -/
theorem isString_of_skipChars {n : Nat} (h : skipChars n t = .ok rest) :
    ∃ taken s, taken.length = n ∧ IsString s ∧ t = taken ++ (s ++ '"' :: rest) := by
  induction t generalizing n with
  | nil =>
      cases n <;> cases h
  | cons c t ih =>
      cases n with
      | succ n =>
          obtain ⟨taken, s, rfl, hs, rfl⟩ := ih h
          exact ⟨c :: taken, s, rfl, hs, rfl⟩
      | zero =>
          refine ⟨[], ?_⟩
          rw [skipChars.eq_def] at h
          dsimp only at h
          split_ifs at h with hquote hbackslash hcontrol
          · cases h
            exact ⟨[], rfl, .nil, by rw [hquote]; rfl⟩
          · subst hbackslash
            split at h
            · cases h
            · next d u =>
              split_ifs at h with hletter hu
              · obtain ⟨taken, s, hlength, hs, heq⟩ := ih h
                obtain ⟨e, rfl⟩ := List.length_eq_one_iff.mp hlength
                obtain ⟨rfl, rfl⟩ := List.cons.inj heq
                exact ⟨['\\', d] ++ s, rfl, .cons (.letter hletter) hs, rfl⟩
              · subst hu
                split at h
                · cases h
                · next unit hunit =>
                  obtain ⟨digits, u, rfl, hdigits, hvalue⟩ :=
                    hexUnit?_eq_some (readUnit_eq_ok_iff.mp hunit)
                  obtain ⟨taken, s, hlength, hs, heq⟩ := ih h
                  obtain ⟨rfl, rfl⟩ := List.append_inj
                    (show 'u' :: digits ++ u = taken ++ _ from heq) (by simp [hdigits, hlength])
                  exact ⟨'\\' :: 'u' :: digits ++ s, rfl,
                    .cons (.digits hdigits (by simp [hvalue])) hs, by simp⟩
          · obtain ⟨taken, s, hlength, hs, rfl⟩ := ih h
            obtain rfl := List.length_eq_zero_iff.mp hlength
            exact ⟨c :: s, rfl, .cons (.plain hquote hbackslash hcontrol) hs, rfl⟩

theorem skipChars_quote (t : Text) : skipChars 0 ('"' :: t) = .ok t := by
  cases t <;> rfl

/-- A piece of a string is skipped, whatever stands behind it. -/
theorem skipChars_of_isStringPiece {piece : Text} (h : IsStringPiece piece) (t : Text) :
    skipChars 0 (piece ++ t) = skipChars 0 t := by
  cases h with
  | plain hquote hbackslash hcontrol =>
      rw [List.singleton_append, skipChars.eq_def]
      dsimp only
      rw [if_neg hquote, if_neg hbackslash, if_neg hcontrol]
  | letter h =>
      rw [List.cons_append, List.cons_append, List.nil_append, skipChars, if_neg (by decide),
        if_pos rfl, if_pos h, skipChars]
  | @digits digits hlength h =>
      obtain ⟨unit, hunit⟩ := Option.isSome_iff_exists.mp h
      have hread : readUnit (digits ++ t) = .ok unit := by
        rw [readUnit_eq_ok_iff, hexUnit?_append hlength, hunit]
      rw [List.cons_append, List.cons_append, skipChars, if_neg (by decide), if_pos rfl,
        if_neg (by decide), if_pos rfl, hread]
      have htaken : ('u' :: digits).length = 5 := by simp [hlength]
      exact skipChars_append htaken t

theorem skipString_eq_ok_iff :
    skipString t = .ok rest ↔ ∃ s, IsString s ∧ t = s ++ '"' :: rest := by
  unfold skipString
  constructor
  · intro h
    obtain ⟨taken, s, hlength, hs, rfl⟩ := isString_of_skipChars h
    obtain rfl := List.length_eq_zero_iff.mp hlength
    exact ⟨s, hs, rfl⟩
  · rintro ⟨s, hs, rfl⟩
    induction hs with
    | nil =>
        exact skipChars_quote rest
    | cons head tail ih =>
        rw [List.append_assoc, skipChars_of_isStringPiece head, ih]

/-- The digits at the start of a text. -/
theorem exists_isDigits (h : startsWithDigit t = true) :
    ∃ digits, IsDigits digits ∧ t = digits ++ skipDigits t := by
  cases t with
  | nil =>
      cases h
  | cons c t =>
      have hc : c.isDigit = true := h
      refine ⟨(c :: t).takeWhile Char.isDigit, ⟨by simp [hc], fun d hd => ?_⟩,
        List.takeWhile_append_dropWhile.symm⟩
      exact List.mem_takeWhile_imp hd

theorem IsDigits.startsWithDigit {digits : Text} (h : IsDigits digits) (t : Text) :
    startsWithDigit (digits ++ t) = true := by
  obtain ⟨c, cs, rfl⟩ := List.exists_cons_of_ne_nil h.1
  exact h.2 c (by simp)

theorem IsDigits.head?_ne {digits : Text} (h : IsDigits digits) {c : Char}
    (hc : c.isDigit = false) (t : Text) : (digits ++ t).head? ≠ some c := by
  obtain ⟨d, ds, rfl⟩ := List.exists_cons_of_ne_nil h.1
  rintro heq
  cases heq
  rw [h.2 c (by simp)] at hc
  cases hc

theorem IsDigits.skipDigits_append {digits : Text} (h : IsDigits digits)
    (hrest : Json.startsWithDigit rest = false) : skipDigits (digits ++ rest) = rest := by
  rw [skipDigits, List.dropWhile_append_of_pos h.2]
  cases rest with
  | nil =>
      rfl
  | cons c rest =>
      have hc : c.isDigit = false := hrest
      simp [hc]

/-- The text behind the exponent of a number, if it has one. -/
def skipScale (t : Text) : Except Stop Text :=
  if startsWithExponent t = true then skipExponent t.tail else .ok t

/-- The text behind the fraction and the exponent of a number. -/
def skipTail (t : Text) : Except Stop Text :=
  if t.head? = some '.' then skipFraction t.tail else skipScale t

theorem exists_isDigits_of_skipExponent (h : skipExponent t = .ok rest) :
    ∃ sign digits, (sign = [] ∨ sign = ['+'] ∨ sign = ['-']) ∧ IsDigits digits ∧
      t = sign ++ (digits ++ rest) := by
  unfold skipExponent at h
  dsimp only at h
  split_ifs at h with hsign hstart hstart <;> cases h <;>
    obtain ⟨digits, hdigits, heq⟩ := exists_isDigits hstart
  · simp only [Bool.or_eq_true, decide_eq_true_eq] at hsign
    rcases hsign with hsign | hsign <;> obtain ⟨u, rfl⟩ := List.head?_eq_some_iff.mp hsign
    · exact ⟨['+'], digits, by simp, hdigits, congrArg (List.cons '+') heq⟩
    · exact ⟨['-'], digits, by simp, hdigits, congrArg (List.cons '-') heq⟩
  · exact ⟨[], digits, Or.inl rfl, hdigits, heq⟩

theorem skipExponent_append {sign digits : Text} (hsign : sign = [] ∨ sign = ['+'] ∨ sign = ['-'])
    (hdigits : IsDigits digits) (hrest : startsWithDigit rest = false) :
    skipExponent (sign ++ (digits ++ rest)) = .ok rest := by
  have hskip : (if startsWithDigit (digits ++ rest) = true then .ok (skipDigits (digits ++ rest))
      else .error (stopPast 1 .invalidNumber (digits ++ rest)) : Except Stop Text) = .ok rest := by
    rw [if_pos (hdigits.startsWithDigit rest), hdigits.skipDigits_append hrest]
  rcases hsign with rfl | rfl | rfl
  · have hplus := hdigits.head?_ne (show '+'.isDigit = false from rfl) rest
    have hminus := hdigits.head?_ne (show '-'.isDigit = false from rfl) rest
    have hsign : ¬(decide ((digits ++ rest).head? = some '+') ||
        decide ((digits ++ rest).head? = some '-')) = true := by
      rw [Bool.or_eq_true, decide_eq_true_eq, decide_eq_true_eq, not_or]
      exact ⟨hplus, hminus⟩
    unfold skipExponent
    dsimp only
    rw [List.nil_append, if_neg hsign, hskip]
  · exact hskip
  · exact hskip

theorem exists_isExponent_of_skipScale (h : skipScale t = .ok rest) :
    ∃ exponent, IsExponent exponent ∧ t = exponent ++ rest := by
  unfold skipScale at h
  split_ifs at h with hstart
  · cases t with
    | nil =>
        cases hstart
    | cons e t =>
        have he : e = 'e' ∨ e = 'E' := by simpa [startsWithExponent] using hstart
        rw [List.tail_cons] at h
        obtain ⟨sign, digits, hsign, hdigits, rfl⟩ := exists_isDigits_of_skipExponent h
        exact ⟨e :: (sign ++ digits), Or.inr ⟨e, sign, digits, he, hsign, hdigits, rfl⟩, by simp⟩
  · cases h
    exact ⟨[], Or.inl rfl, rfl⟩

theorem skipScale_append {exponent : Text} (h : IsExponent exponent) (hrest : EndsNumber rest) :
    skipScale (exponent ++ rest) = .ok rest := by
  obtain ⟨hdigit, hexponent, -⟩ := hrest
  unfold skipScale
  rcases h with rfl | ⟨e, sign, digits, he, hsign, hdigits, rfl⟩
  · rw [List.nil_append, if_neg (by simp [hexponent])]
  · rw [List.cons_append, if_pos (by simpa [startsWithExponent] using he), List.tail_cons,
      List.append_assoc, skipExponent_append hsign hdigits hdigit]

theorem IsExponent.startsWithDigit_append {exponent : Text} (h : IsExponent exponent)
    (hrest : EndsNumber rest) : Json.startsWithDigit (exponent ++ rest) = false := by
  rcases h with rfl | ⟨e, sign, digits, rfl | rfl, -, -, rfl⟩
  · exact hrest.1
  · rfl
  · rfl

theorem IsFraction.startsWithDigit_append {fraction exponent : Text} (h : IsFraction fraction)
    (hexponent : IsExponent exponent) (hrest : EndsNumber rest) :
    Json.startsWithDigit (fraction ++ (exponent ++ rest)) = false := by
  rcases h with rfl | ⟨digits, -, rfl⟩
  · exact hexponent.startsWithDigit_append hrest
  · rfl

theorem IsExponent.head?_ne_point {exponent : Text} (h : IsExponent exponent)
    (hrest : EndsNumber rest) : (exponent ++ rest).head? ≠ some '.' := by
  rcases h with rfl | ⟨e, sign, digits, rfl | rfl, -, -, rfl⟩
  · exact hrest.2.2
  · simp
  · simp

theorem exists_isFraction_of_skipTail (h : skipTail t = .ok rest) :
    ∃ fraction exponent, IsFraction fraction ∧ IsExponent exponent ∧
      t = fraction ++ (exponent ++ rest) := by
  unfold skipTail at h
  split_ifs at h with hpoint
  · obtain ⟨u, rfl⟩ := List.head?_eq_some_iff.mp hpoint
    rw [List.tail_cons] at h
    unfold skipFraction at h
    dsimp only at h
    split at h
    · cases h
    · next hstart =>
      obtain ⟨digits, hdigits, heq⟩ := exists_isDigits (by simpa using hstart)
      obtain ⟨exponent, hexponent, hrest⟩ := exists_isExponent_of_skipScale h
      refine ⟨'.' :: digits, exponent, Or.inr ⟨digits, hdigits, rfl⟩, hexponent, ?_⟩
      rw [← hrest, List.cons_append, ← heq]
  · obtain ⟨exponent, hexponent, rfl⟩ := exists_isExponent_of_skipScale h
    exact ⟨[], exponent, Or.inl rfl, hexponent, rfl⟩

theorem skipTail_append {fraction exponent : Text} (hfraction : IsFraction fraction)
    (hexponent : IsExponent exponent) (hrest : EndsNumber rest) :
    skipTail (fraction ++ (exponent ++ rest)) = .ok rest := by
  have hscale := skipScale_append hexponent hrest
  unfold skipTail
  rcases hfraction with rfl | ⟨digits, hdigits, rfl⟩
  · rw [List.nil_append, if_neg (hexponent.head?_ne_point hrest), hscale]
  · have hend := hexponent.startsWithDigit_append hrest
    rw [List.cons_append, List.head?_cons, if_pos rfl, List.tail_cons]
    unfold skipFraction
    dsimp only
    rw [if_neg (by simp [hdigits.startsWithDigit]), hdigits.skipDigits_append hend]
    exact hscale

/-- The whole part of a number is all digits at its start, and no zero stands in front of others. -/
theorem exists_whole (hstart : startsWithDigit t = true)
    (hzero : ¬(decide (t.head? = some '0') && startsWithDigit t.tail) = true) :
    ∃ whole, IsDigits whole ∧ (whole.head? = some '0' → whole = ['0']) ∧
      t = whole ++ skipDigits t := by
  obtain ⟨whole, hwhole, heq⟩ := exists_isDigits hstart
  refine ⟨whole, hwhole, fun hhead => ?_, heq⟩
  obtain ⟨ds, rfl⟩ := List.head?_eq_some_iff.mp hhead
  by_cases hds : ds = []
  · rw [hds]
  · have hdigits : IsDigits ds := ⟨hds, fun c hc => hwhole.2 c (List.mem_cons_of_mem _ hc)⟩
    rw [heq] at hzero
    simp [hdigits.startsWithDigit] at hzero

/-- What is skipped as a number is one, as far as it goes. -/
theorem exists_isNumber_of_skipNumber (h : skipNumber t = .ok rest) :
    ∃ n, IsNumber n ∧ t = n ++ rest := by
  obtain ⟨sign, u, hsign, hu, rfl⟩ : ∃ sign u, (sign = [] ∨ sign = ['-']) ∧
      u = (if t.head? = some '-' then t.tail else t) ∧ t = sign ++ u := by
    split
    · next hminus =>
      obtain ⟨u, rfl⟩ := List.head?_eq_some_iff.mp hminus
      exact ⟨['-'], u, Or.inr rfl, rfl, rfl⟩
    · exact ⟨[], t, Or.inl rfl, rfl, rfl⟩
  unfold skipNumber at h
  dsimp only at h
  rw [← hu] at h
  split at h
  · cases h
  · next hstart =>
    split at h
    · cases h
    · next hzero =>
      obtain ⟨whole, hwhole, hzero, heq⟩ := exists_whole (by simpa using hstart) hzero
      obtain ⟨fraction, exponent, hfraction, hexponent, hrest⟩ := exists_isFraction_of_skipTail h
      refine ⟨_, .intro hsign hwhole hzero hfraction hexponent, ?_⟩
      rw [heq, hrest]
      simp

/-- A number starts with a minus or a digit. -/
theorem IsNumber.starts {n : Text} (h : IsNumber n) :
    ∃ c u, n = c :: u ∧ startsNumber c = true := by
  obtain @⟨sign, whole, fraction, exponent, hsign, hwhole, -, -, -⟩ := h
  rcases hsign with rfl | rfl
  · obtain ⟨c, cs, rfl⟩ := List.exists_cons_of_ne_nil hwhole.1
    exact ⟨c, _, rfl, by simp [startsNumber, hwhole.2 c (by simp)]⟩
  · exact ⟨'-', _, rfl, rfl⟩

/-- **A number is skipped up to what ends it.** -/
theorem skipNumber_append {n : Text} (hn : IsNumber n) (hrest : EndsNumber rest) :
    skipNumber (n ++ rest) = .ok rest := by
  obtain @⟨sign, whole, fraction, exponent, hsign, hwhole, hzero, hfraction, hexponent⟩ := hn
  obtain ⟨u, hu⟩ : ∃ u, u = whole ++ (fraction ++ (exponent ++ rest)) := ⟨_, rfl⟩
  have hend := hfraction.startsWithDigit_append hexponent hrest
  have hstart : startsWithDigit u = true := hu ▸ hwhole.startsWithDigit _
  have hunsigned : (if (sign ++ u).head? = some '-' then (sign ++ u).tail else sign ++ u) = u := by
    rcases hsign with rfl | rfl
    · rw [List.nil_append, if_neg (hu ▸ hwhole.head?_ne (by rfl) _)]
    · rfl
  have hnozero : ¬(decide (u.head? = some '0') && startsWithDigit u.tail) = true := by
    obtain ⟨c, cs, hcs⟩ := List.exists_cons_of_ne_nil hwhole.1
    rw [Bool.and_eq_true, decide_eq_true_eq]
    rintro ⟨hhead, htail⟩
    rw [hu, hcs, List.cons_append, List.head?_cons] at hhead
    rw [hu, hzero (by rw [hcs, List.head?_cons, hhead]), List.singleton_append, List.tail_cons,
      hend] at htail
    cases htail
  have happend : sign ++ (whole ++ (fraction ++ exponent)) ++ rest = sign ++ u := by simp [hu]
  have hskip : skipDigits u = fraction ++ (exponent ++ rest) := hu ▸ hwhole.skipDigits_append hend
  rw [happend]
  unfold skipNumber
  dsimp only
  rw [hunsigned, if_neg (by simp [hstart]), if_neg hnozero, hskip]
  exact skipTail_append hfraction hexponent hrest

end Json
end IconAssets
