import IconAssets.Text.Basic
import Mathlib.Data.List.Basic

/-!
# Replacing in texts

A replacement works from left to right: it writes the new text for each occurrence of the old one
and goes on behind it.  In general new occurrences may arise where the new text meets what stands
around it.  This is not so when both texts start with one character that is nowhere else in them, and
neither is a beginning of the other: then an occurrence of the one cannot overlap an occurrence of the
other, and the replacement can be taken back as far as the old text had not been there before.

* `replaceAll_induction`: induction along a replacement, one occurrence or one character at a time;
* `replaceAll_of_absent`: a text without occurrences stays;
* `Rivals`: the two texts, by their common first character and what follows it;
* `Rivals.eq_replaceAll_iff`: what marks out the text that a replacement gives.
-/

namespace IconAssets
namespace Text

section

variable {old : Text}

/-- The characters of an occurrence that has been replaced are passed over. -/
theorem replaceFrom_append (old new front t : Text) :
    replaceFrom old new front.length (front ++ t) = replaceAll old new t := by
  induction front with
  | nil =>
      rfl
  | cons c cs ih =>
      rw [List.length_cons, List.cons_append, replaceFrom, ih]

/-- An occurrence at the start is replaced. -/
theorem replaceAll_append (hold : old ≠ []) (new t : Text) :
    replaceAll old new (old ++ t) = new ++ replaceAll old new t := by
  obtain ⟨c, cs, rfl⟩ := List.exists_cons_of_ne_nil hold
  have hfound : (c :: cs).isPrefixOf (c :: (cs ++ t)) = true :=
    List.isPrefixOf_iff_prefix.mpr (List.prefix_append (c :: cs) t)
  have hrest := replaceFrom_append (c :: cs) new cs t
  rw [replaceAll, List.cons_append, replaceFrom, if_pos hfound, List.length_cons,
    Nat.add_sub_cancel, hrest]

/-- A character at which no occurrence starts is kept. -/
theorem replaceAll_cons_of_not {c : Char} {t : Text} (h : ¬old <+: c :: t) (new : Text) :
    replaceAll old new (c :: t) = c :: replaceAll old new t := by
  rw [replaceAll, replaceFrom, if_neg (by rwa [List.isPrefixOf_iff_prefix]), replaceAll]

/-- Induction along a replacement: a text is empty, or an occurrence stands at its start, or its first
character is kept. -/
theorem replaceAll_induction (hold : old ≠ []) {motive : Text → Prop} (nil : motive [])
    (found : ∀ rest, motive rest → motive (old ++ rest))
    (kept : ∀ c rest, ¬old <+: c :: rest → motive rest → motive (c :: rest)) (t : Text) :
    motive t := by
  induction hlength : t.length using Nat.strongRecOn generalizing t with
  | ind n ih =>
      subst hlength
      cases t with
      | nil =>
          exact nil
      | cons c cs =>
          by_cases hstart : old <+: c :: cs
          · obtain ⟨rest, hrest⟩ := hstart
            have hpos := List.length_pos_of_ne_nil hold
            rw [← hrest] at ih ⊢
            exact found rest (ih _ (by simpa using hpos) rest rfl)
          · exact kept c cs hstart (ih _ (by simp) cs rfl)

/-- A text without occurrences stays as it is. -/
theorem replaceAll_of_absent {new t : Text} (h : ¬old <:+: t) : replaceAll old new t = t := by
  induction t with
  | nil =>
      rfl
  | cons c cs ih =>
      rw [List.infix_cons_iff, not_or] at h
      rw [replaceAll_cons_of_not h.1, ih h.2]

end

/-!
## Texts with a first character of their own

An occurrence of a text can only start where its first character stands.  If this is nowhere else in
the text, what starts with another character is passed over.
-/

section

variable {h : Char} {u v w new : Text}

/-- No occurrence starts in a text without the first character. -/
theorem infix_append_iff_of_not_mem (hw : h ∉ w) (t : Text) :
    h :: u <:+: w ++ t ↔ h :: u <:+: t := by
  induction w with
  | nil =>
      rfl
  | cons c cs ih =>
      rw [List.mem_cons, not_or] at hw
      rw [List.cons_append, List.infix_cons_iff, List.cons_prefix_cons, ih hw.2]
      exact or_iff_right fun hstart => hw.1 hstart.1

theorem replaceAll_append_of_not_mem (hw : h ∉ w) (t : Text) :
    replaceAll (h :: u) new (w ++ t) = w ++ replaceAll (h :: u) new t := by
  induction w with
  | nil =>
      rfl
  | cons c cs ih =>
      rw [List.mem_cons, not_or] at hw
      have hstart : ¬h :: u <+: c :: (cs ++ t) := fun hfound =>
        hw.1 (List.cons_prefix_cons.mp hfound).1
      rw [List.cons_append, replaceAll_cons_of_not hstart, ih hw.2, List.cons_append]

/-- A replacement that starts with the same character brings in no beginning without it. -/
theorem prefix_replaceAll_iff (hw : h ∉ w) (t : Text) :
    w <+: replaceAll (h :: u) (h :: v) t ↔ w <+: t := by
  induction t using replaceAll_induction (List.cons_ne_nil h u) generalizing w with
  | nil =>
      rfl
  | found rest _ =>
      rw [replaceAll_append (List.cons_ne_nil h u)]
      cases w with
      | nil =>
          simp
      | cons c cs =>
          have hne : c ≠ h := fun heq => hw (by simp [heq])
          simp [List.cons_prefix_cons, hne]
  | kept c rest hstart ih =>
      rw [replaceAll_cons_of_not hstart]
      cases w with
      | nil =>
          simp
      | cons d ds =>
          rw [List.cons_prefix_cons, List.cons_prefix_cons, ih fun hmem =>
            hw (List.mem_cons_of_mem d hmem)]

end

/-- Two texts that start with one character which is nowhere else in them, given by what follows it;
neither is a beginning of the other. -/
structure Rivals (h : Char) (u v : Text) : Prop where
  left : h ∉ u
  right : h ∉ v
  apart : ¬u <+: v
  apart' : ¬v <+: u

namespace Rivals

variable {h : Char} {u v : Text}

theorem symm (hr : Rivals h u v) : Rivals h v u :=
  ⟨hr.right, hr.left, hr.apart', hr.apart⟩

/-- Where one of the texts stands, the other one does not start. -/
theorem not_start_append (hr : Rivals h u v) (t : Text) : ¬h :: u <+: h :: (v ++ t) := by
  intro hstart
  rcases List.prefix_or_prefix_of_prefix (List.cons_prefix_cons.mp hstart).2
    (List.prefix_append v t) with huv | hvu
  · exact hr.apart huv
  · exact hr.apart' hvu

/-- The replacement of the one text keeps the other. -/
theorem replaceAll_append_other (hr : Rivals h u v) (new t : Text) :
    replaceAll (h :: u) new (h :: v ++ t) = h :: v ++ replaceAll (h :: u) new t := by
  rw [List.cons_append, replaceAll_cons_of_not (hr.not_start_append t),
    replaceAll_append_of_not_mem hr.right, List.cons_append]

/-- Nothing of the old text is left, and none arises at a seam. -/
theorem not_infix_replaceAll (hr : Rivals h u v) (t : Text) :
    ¬h :: u <:+: replaceAll (h :: u) (h :: v) t := by
  induction t using replaceAll_induction (List.cons_ne_nil h u) with
  | nil =>
      exact fun hinfix => absurd (List.eq_nil_of_infix_nil hinfix) (List.cons_ne_nil h u)
  | found rest ih =>
      rw [replaceAll_append (List.cons_ne_nil h u), List.cons_append, List.infix_cons_iff,
        infix_append_iff_of_not_mem hr.right]
      exact not_or.mpr ⟨hr.not_start_append _, ih⟩
  | kept c rest hstart ih =>
      rw [replaceAll_cons_of_not hstart, List.infix_cons_iff]
      -- What follows the first character would have been there before the replacement.
      rw [List.cons_prefix_cons] at hstart ⊢
      rw [prefix_replaceAll_iff hr.left]
      exact not_or.mpr ⟨hstart, ih⟩

/-- Replacing the new text by the old one gives the same with and without the replacement before. -/
theorem replaceAll_replaceAll (hr : Rivals h u v) (t : Text) :
    replaceAll (h :: v) (h :: u) (replaceAll (h :: u) (h :: v) t) =
      replaceAll (h :: v) (h :: u) t := by
  induction t using replaceAll_induction (List.cons_ne_nil h u) with
  | nil =>
      rfl
  | found rest ih =>
      rw [replaceAll_append (List.cons_ne_nil h u), replaceAll_append (List.cons_ne_nil h v), ih,
        hr.symm.replaceAll_append_other]
  | kept c rest hstart ih =>
      rw [replaceAll_cons_of_not hstart]
      by_cases hnew : h :: v <+: c :: rest
      · obtain ⟨more, hmore⟩ := hnew
        rw [List.cons_append] at hmore
        obtain ⟨rfl, rfl⟩ := List.cons.inj hmore
        -- The occurrence of the new text lies in what is kept, and behind it both sides agree.
        rw [replaceAll_append_of_not_mem hr.right] at ih ⊢
        rw [replaceAll_append_of_not_mem hr.right, replaceAll_append_of_not_mem hr.right] at ih
        rw [← List.cons_append, ← List.cons_append, replaceAll_append (List.cons_ne_nil h v),
          replaceAll_append (List.cons_ne_nil h v), List.append_cancel_left ih]
      · have hkept : ¬h :: v <+: c :: replaceAll (h :: u) (h :: v) rest := by
          rw [List.cons_prefix_cons] at hnew ⊢
          rwa [prefix_replaceAll_iff hr.right]
        rw [replaceAll_cons_of_not hkept, replaceAll_cons_of_not hnew, ih]

/-- **The text that a replacement gives is the only one without the old text that differs from the
given one in nothing but which of the two texts stands where.** -/
theorem eq_replaceAll_iff (hr : Rivals h u v) {s t : Text} :
    s = replaceAll (h :: u) (h :: v) t ↔
      ¬h :: u <:+: s ∧
        replaceAll (h :: v) (h :: u) s = replaceAll (h :: v) (h :: u) t := by
  constructor
  · rintro rfl
    exact ⟨hr.not_infix_replaceAll t, hr.replaceAll_replaceAll t⟩
  · rintro ⟨hnone, hback⟩
    calc
      s = replaceAll (h :: u) (h :: v) s := (replaceAll_of_absent hnone).symm
      _ = replaceAll (h :: u) (h :: v) (replaceAll (h :: v) (h :: u) s) :=
        (hr.symm.replaceAll_replaceAll s).symm
      _ = replaceAll (h :: u) (h :: v) (replaceAll (h :: v) (h :: u) t) := by rw [hback]
      _ = replaceAll (h :: u) (h :: v) t := hr.symm.replaceAll_replaceAll t

end Rivals

end Text
end IconAssets
