import IconAssets.Text.Basic
import Mathlib.Data.List.Basic

/-!
# Pieces of a text

How the pieces between separators behave when texts are put together.

* `pieces_append_cons`: a separator in between parts the pieces of two texts;
* `mem_glue`, `mem_of_mem_pieces`: gluing and cutting bring in no characters but separators;
* `infix_of_mem_pieces`: each piece is a part of the text;
* `nil_mem_pieces_iff`: an empty piece stands at an end or between two separators in a row.
-/

namespace IconAssets
namespace Text

theorem pieces_eq_singleton {sep : Char} {t : Text} (h : sep ∉ t) : pieces sep t = [t] := by
  have hone := @pieces_glue sep [t] (by simp) (by simpa using h)
  simpa using hone

/-- A separator in between parts the pieces of two texts. -/
theorem pieces_append_cons (sep : Char) (t u : Text) :
    pieces sep (t ++ sep :: u) = pieces sep t ++ pieces sep u := by
  induction t with
  | nil =>
      simp
  | cons c cs ih =>
      by_cases hc : c = sep
      · subst hc
        rw [List.cons_append, pieces_sep_cons, pieces_sep_cons, ih, List.cons_append]
      · obtain ⟨p, ps, hp, hcons⟩ := pieces_cons_of_ne hc cs
        rw [hp, List.cons_append] at ih
        rw [List.cons_append, hcons, List.cons_append, pieces, if_neg hc, ih]

/-- A last separator closes the last piece and opens an empty one. -/
theorem pieces_append_singleton (sep : Char) (t : Text) :
    pieces sep (t ++ [sep]) = pieces sep t ++ [[]] := by
  rw [pieces_append_cons, pieces_nil]

theorem glue_append_singleton (sep : Char) {ps : List Text} (hps : ps ≠ []) (p : Text) :
    glue sep (ps ++ [p]) = glue sep ps ++ sep :: p := by
  induction ps with
  | nil =>
      exact absurd rfl hps
  | cons q qs ih =>
      cases qs with
      | nil =>
          rfl
      | cons r rs =>
          have hrest := ih (by simp)
          simp only [List.cons_append, glue_cons_cons] at hrest ⊢
          rw [hrest, List.append_assoc, List.cons_append]

theorem glue_cons_of_ne_nil (sep : Char) (p : Text) {ps : List Text} (hps : ps ≠ []) :
    glue sep (p :: ps) = p ++ sep :: glue sep ps := by
  cases ps with
  | nil =>
      exact absurd rfl hps
  | cons q qs =>
      rfl

theorem glue_append (sep : Char) {ps qs : List Text} (hps : ps ≠ []) (hqs : qs ≠ []) :
    glue sep (ps ++ qs) = glue sep ps ++ sep :: glue sep qs := by
  induction ps with
  | nil =>
      exact absurd rfl hps
  | cons p ps ih =>
      by_cases hnil : ps = []
      · subst hnil
        exact glue_cons_of_ne_nil sep p hqs
      · rw [List.cons_append, glue_cons_of_ne_nil sep p (by simp [hqs]), ih hnil,
          glue_cons_of_ne_nil sep p hnil, List.append_assoc, List.cons_append]

/-- What is in glued pieces is a separator or in one of the pieces. -/
theorem mem_glue {sep c : Char} {ps : List Text} (h : c ∈ glue sep ps) :
    c = sep ∨ ∃ p ∈ ps, c ∈ p := by
  induction ps with
  | nil =>
      cases h
  | cons p ps ih =>
      cases ps with
      | nil =>
          exact Or.inr ⟨p, by simp, h⟩
      | cons q qs =>
          rw [glue_cons_cons, List.mem_append, List.mem_cons] at h
          rcases h with hp | hsep | hrest
          · exact Or.inr ⟨p, by simp, hp⟩
          · exact Or.inl hsep
          · rcases ih hrest with hsep | ⟨r, hr, hc⟩
            · exact Or.inl hsep
            · exact Or.inr ⟨r, List.mem_cons_of_mem _ hr, hc⟩

theorem mem_of_mem_pieces {sep c : Char} {t p : Text} (hp : p ∈ pieces sep t) (hc : c ∈ p) :
    c ∈ t := by
  induction t generalizing p with
  | nil =>
      rw [pieces_nil, List.mem_singleton] at hp
      exact absurd hc (by simp [hp])
  | cons d ds ih =>
      by_cases hd : d = sep
      · subst hd
        rw [pieces_sep_cons, List.mem_cons] at hp
        rcases hp with rfl | hp
        · cases hc
        · exact List.mem_cons_of_mem _ (ih hp hc)
      · obtain ⟨q, qs, hq, hcons⟩ := pieces_cons_of_ne hd ds
        rw [hcons, List.mem_cons] at hp
        rcases hp with rfl | hp
        · rcases List.mem_cons.mp hc with rfl | hc
          · exact List.mem_cons_self
          · exact List.mem_cons_of_mem _ (ih (by simp [hq]) hc)
        · exact List.mem_cons_of_mem _ (ih (by simp [hq, hp]) hc)

/-- A text without separators joins the last piece. -/
theorem pieces_append_of_not_mem {sep : Char} {u : Text} (hu : sep ∉ u) (t : Text) :
    ∃ front last, pieces sep t = front ++ [last] ∧ pieces sep (t ++ u) = front ++ [last ++ u] := by
  induction t with
  | nil =>
      exact ⟨[], [], rfl, by simpa using pieces_eq_singleton hu⟩
  | cons c cs ih =>
      obtain ⟨front, last, hcs, hjoined⟩ := ih
      by_cases hc : c = sep
      · subst hc
        exact ⟨[] :: front, last, by simp [hcs], by simp [hjoined]⟩
      · cases front with
        | nil =>
            exact ⟨[], c :: last, by simp_all [pieces], by simp_all [pieces]⟩
        | cons p ps =>
            exact ⟨(c :: p) :: ps, last, by simp_all [pieces], by simp_all [pieces]⟩

/-- Each piece is a part of the text, with the text in front of it and behind it. -/
theorem infix_of_mem_pieces {sep : Char} {t p : Text} (h : p ∈ pieces sep t) : p <:+: t := by
  obtain ⟨front, back, hpieces⟩ := List.append_of_mem h
  have hfront : p <+: glue sep (p :: back) := by
    cases back with
    | nil =>
        exact List.prefix_refl p
    | cons q qs =>
        exact List.prefix_append p _
  rw [← glue_pieces sep t, hpieces]
  clear h hpieces
  induction front with
  | nil =>
      exact hfront.isInfix
  | cons q qs ih =>
      rw [List.cons_append, glue_cons_of_ne_nil sep q (by simp), List.append_cons]
      exact ih.trans (List.suffix_append (q ++ [sep]) _).isInfix

/-- Two separators in a row have an empty piece in between. -/
theorem nil_mem_pieces_of_infix {sep : Char} {t : Text} (h : [sep, sep] <:+: t) :
    [] ∈ pieces sep t := by
  obtain ⟨front, back, rfl⟩ := h
  have htext : front ++ [sep, sep] ++ back = front ++ sep :: sep :: back := by simp
  rw [htext, pieces_append_cons, pieces_sep_cons]
  simp

/-- A text has an empty piece at its ends or between two separators in a row. -/
theorem nil_mem_pieces_iff {sep : Char} {t : Text} :
    [] ∈ pieces sep t ↔
      t = [] ∨ t.head? = some sep ∨ t.getLast? = some sep ∨ [sep, sep] <:+: t := by
  constructor
  · intro h
    obtain ⟨front, back, hpieces⟩ := List.append_of_mem h
    have ht := glue_pieces sep t
    rw [hpieces] at ht
    by_cases hfront : front = []
    · by_cases hback : back = []
      · exact Or.inl (by rw [← ht, hfront, hback]; rfl)
      · rw [hfront, List.nil_append, glue_cons_of_ne_nil sep [] hback] at ht
        exact Or.inr (Or.inl (by rw [← ht]; rfl))
    · rw [glue_append sep hfront (by simp)] at ht
      by_cases hback : back = []
      · rw [hback] at ht
        exact Or.inr (Or.inr (Or.inl (by rw [← ht]; simp)))
      · rw [glue_cons_of_ne_nil sep [] hback] at ht
        exact Or.inr (Or.inr (Or.inr ⟨glue sep front, glue sep back, by rw [← ht]; simp⟩))
  · rintro (rfl | hhead | hlast | hinfix)
    · simp
    · obtain ⟨cs, rfl⟩ := List.head?_eq_some_iff.mp hhead
      simp
    · obtain ⟨cs, rfl⟩ := List.getLast?_eq_some_iff.mp hlast
      simp [pieces_append_singleton]
    · exact nil_mem_pieces_of_infix hinfix

/-- A text without empty pieces has none when more is joined to its last piece. -/
theorem nil_not_mem_pieces_append {sep : Char} {t u : Text} (ht : [] ∉ pieces sep t)
    (hu : sep ∉ u) : [] ∉ pieces sep (t ++ u) := by
  obtain ⟨front, last, hpieces, hjoined⟩ := pieces_append_of_not_mem hu t
  rw [hpieces, List.mem_append, List.mem_singleton] at ht
  rw [hjoined, List.mem_append, List.mem_singleton]
  rintro (hfront | hlast)
  · exact ht (Or.inl hfront)
  · exact ht (Or.inr (List.append_eq_nil_iff.mp hlast.symm).1.symm)

end Text
end IconAssets
