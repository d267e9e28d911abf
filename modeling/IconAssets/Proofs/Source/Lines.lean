import IconAssets.Source.Comment
import IconAssets.Proofs.Text.Pieces

/-!
# Lines of a source text

Removing the comments of a text neither joins nor parts its lines, so each line keeps its number.
What stands on a line afterwards stood there before, but for the spaces that block comments leave
behind.

* `KeepsLines`: what may happen to a text character by character;
* `keepsLines_stripFrom`: nothing else happens, whatever the mode;
* `KeepsLines.lines`: what this means for the lines;
* `stripComments_lines`: the lines of a text without its comments.
-/

namespace IconAssets
namespace Source

open Text

/-- A text has lost some characters, but no newline, and has got some spaces. -/
inductive KeepsLines : Text → Text → Prop
  | nil : KeepsLines [] []
  | kept (c : Char) {out t : Text} : KeepsLines out t → KeepsLines (c :: out) (c :: t)
  | dropped {c : Char} {out t : Text} : c ≠ '\n' → KeepsLines out t → KeepsLines out (c :: t)
  | spaced {out t : Text} : KeepsLines out t → KeepsLines (' ' :: out) t

/-- In each mode a word is kept, or it holds no newline and leaves a space at most. -/
theorem keepsLines_stripFrom (m : Mode) (t : Text) : KeepsLines (stripFrom m t) t := by
  fun_induction stripFrom m t with
  | case1 =>
      exact .nil
  -- The words that open a comment, and the one that closes a block comment.
  | case2 cs ih | case9 cs ih =>
      exact .dropped (by decide) (.dropped (by decide) ih)
  | case3 cs ih =>
      exact .spaced (.dropped (by decide) (.dropped (by decide) ih))
  -- The other characters of a comment.
  | case8 c cs hnewline ih =>
      exact .dropped hnewline ih
  | case11 c cs _ hnewline ih =>
      exact .dropped hnewline ih
  -- Triple quotes, and what a backslash takes with it.
  | case4 cs ih | case17 cs ih =>
      exact .kept _ (.kept _ (.kept _ ih))
  | case12 c cs ih | case16 c cs ih =>
      exact .kept _ (.kept _ ih)
  | case5 cs _ ih | case7 cs ih | case10 cs ih | case13 cs ih | case14 cs ih =>
      exact .kept _ ih
  | case6 c cs _ _ _ _ ih | case15 c cs _ _ _ ih | case18 c cs _ _ ih =>
      exact .kept _ ih

namespace KeepsLines

variable {out t : Text}

theorem count (h : KeepsLines out t) : out.count '\n' = t.count '\n' := by
  induction h with
  | nil =>
      rfl
  | kept c _ ih =>
      rw [List.count_cons, List.count_cons, ih]
  | dropped hnewline _ ih =>
      rw [ih, List.count_cons_of_ne hnewline]
  | spaced _ ih =>
      rw [List.count_cons_of_ne (by decide), ih]

/-- Only the first line changes with a character that is no newline. -/
theorem lines (h : KeepsLines out t) :
    List.Forall₂ (fun left line => (left.filter (· ≠ ' ')).Sublist line) (pieces '\n' out)
      (pieces '\n' t) := by
  induction h with
  | nil =>
      simp
  | @kept c out t _ ih =>
      by_cases hnewline : c = '\n'
      · subst hnewline
        rw [pieces_sep_cons, pieces_sep_cons]
        exact .cons (by simp) ih
      · obtain ⟨left, lefts, hout, hcons⟩ := pieces_cons_of_ne hnewline out
        obtain ⟨line, lines, ht, hcons'⟩ := pieces_cons_of_ne hnewline t
        rw [hout, ht] at ih
        obtain ⟨hfirst, hrest⟩ := List.forall₂_cons.mp ih
        rw [hcons, hcons']
        refine .cons ?_ hrest
        by_cases hspace : c = ' '
        · subst hspace
          simpa using hfirst.cons _
        · simpa [hspace] using hfirst
  | @dropped c out t hnewline _ ih =>
      obtain ⟨line, lines, ht, hcons⟩ := pieces_cons_of_ne hnewline t
      obtain ⟨left, lefts, hout⟩ := List.exists_cons_of_ne_nil (pieces_ne_nil '\n' out)
      rw [hout, ht] at ih
      obtain ⟨hfirst, hrest⟩ := List.forall₂_cons.mp ih
      rw [hcons, hout]
      exact .cons (hfirst.cons c) hrest
  | @spaced out t _ ih =>
      obtain ⟨left, lefts, hout, hcons⟩ := @pieces_cons_of_ne '\n' ' ' (by decide) out
      obtain ⟨line, lines, ht⟩ := List.exists_cons_of_ne_nil (pieces_ne_nil '\n' t)
      rw [hout, ht] at ih
      obtain ⟨hfirst, hrest⟩ := List.forall₂_cons.mp ih
      rw [hcons, ht]
      exact .cons (by simpa using hfirst) hrest

end KeepsLines

/-- **Removing the comments of a text keeps its lines**: there are as many newlines as before, and
what stands on a line, spaces apart, stood on the same line before, in the same order. -/
theorem stripComments_lines (source : Text) :
    (stripComments source).count '\n' = source.count '\n' ∧
      List.Forall₂ (fun left line => (left.filter (· ≠ ' ')).Sublist line)
        (pieces '\n' (stripComments source)) (pieces '\n' source) := by
  have hkeeps : KeepsLines (stripComments source) source := keepsLines_stripFrom .code source
  exact ⟨hkeeps.count, hkeeps.lines⟩

/-- A newline that a backslash takes, newlines in a block comment, and a comment behind it. -/
example : pieces '\n' (stripComments "\"a\\\n//\" /* b\n c\n*/ d // e".toList) =
    ["\"a\\".toList, "//\"  ".toList, [], " d ".toList] := by
  decide

end Source
end IconAssets
