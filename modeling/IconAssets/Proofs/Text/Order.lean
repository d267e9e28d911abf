import IconAssets.Text.Utf8
import Mathlib.Data.List.Basic
import Mathlib.Tactic.SplitIfs

/-!
# The order of texts

The names in a folder are listed in the order of their code points.  This is the order of their bytes
in UTF-8 as well: of two characters the lesser one takes no more bytes, and it has the lesser byte
where the two first differ.

* `encodeChar_lt`: the bytes of characters;
* `before_of_comesBefore`: the bytes of texts;
* `pairwise_sortOnce`: sorted texts are in the order of their bytes.
-/

namespace IconAssets
namespace Text

/-- The bytes of a text come before those of another one. -/
def Before (a b : Text) : Prop := Utf8.encode a < Utf8.encode b

theorem Before.trans {a b c : Text} (h : Before a b) (h' : Before b c) : Before a c :=
  List.lt_trans h h'

instance : Std.Asymm Before where
  asymm _ _ h h' := List.lt_asymm h h'

theorem cons_ofNat_lt {m n : Nat} {x y : Bytes} (hm : m < 256) (hn : n < 256) (hle : m ≤ n)
    (h : m = n → x < y) : UInt8.ofNat m :: x < UInt8.ofNat n :: y := by
  rw [List.cons_lt_cons_iff, UInt8.lt_iff_toNat_lt, UInt8.toNat_ofNat', UInt8.toNat_ofNat',
    Nat.mod_eq_of_lt hm, Nat.mod_eq_of_lt hn]
  rcases Nat.lt_or_eq_of_le hle with hlt | rfl
  · exact Or.inl hlt
  · exact Or.inr ⟨rfl, h rfl⟩

/-- The bytes of a lesser character come first, whatever follows. -/
theorem encodeChar_lt {c d : Char} (h : c.toNat < d.toNat) (x y : Bytes) :
    String.utf8EncodeChar c ++ x < String.utf8EncodeChar d ++ y := by
  have hvalid : d.val.toNat < 0xD800 ∨ (0xDFFF < d.val.toNat ∧ d.val.toNat < 0x110000) := d.valid
  change c.val.toNat < d.val.toNat at h
  unfold String.utf8EncodeChar
  simp only []
  generalize c.val.toNat = m at h
  generalize d.val.toNat = n at h hvalid
  -- One byte after the other: it is less, or it is the same and the next one decides.
  split_ifs <;>
    repeat first | omega | refine cons_ofNat_lt (by omega) (by omega) (by omega) fun _ => ?_

/-- Texts in the order of their code points are in the order of their bytes. -/
theorem before_of_comesBefore {a b : Text} (h : comesBefore a b = true) : Before a b := by
  unfold Before Utf8.encode
  induction a generalizing b with
  | nil =>
      cases b with
      | nil =>
          cases h
      | cons d ds =>
          rw [List.flatMap_nil, List.flatMap_cons]
          cases hd : String.utf8EncodeChar d with
          | nil =>
              exact absurd hd String.utf8EncodeChar_ne_nil
          | cons byte bytes =>
              exact List.nil_lt_cons byte _
  | cons c cs ih =>
      cases b with
      | nil =>
          cases h
      | cons d ds =>
          rw [comesBefore, Bool.or_eq_true, decide_eq_true_eq, Bool.and_eq_true,
            decide_eq_true_eq] at h
          rw [List.flatMap_cons, List.flatMap_cons]
          rcases h with hlt | ⟨rfl, hrest⟩
          · exact encodeChar_lt hlt _ _
          · exact List.append_left_lt (ih hrest)

theorem comesBefore_or_comesBefore {a b : Text} (h : a ≠ b) :
    comesBefore a b = true ∨ comesBefore b a = true := by
  induction a generalizing b with
  | nil =>
      cases b with
      | nil =>
          exact absurd rfl h
      | cons d ds =>
          exact Or.inl rfl
  | cons c cs ih =>
      cases b with
      | nil =>
          exact Or.inr rfl
      | cons d ds =>
          simp only [comesBefore, Bool.or_eq_true, decide_eq_true_eq, Bool.and_eq_true]
          rcases Nat.lt_trichotomy c.toNat d.toNat with hlt | heq | hlt
          · exact Or.inl (Or.inl hlt)
          · obtain rfl : c = d := Char.toNat_inj.mp heq
            exact (ih fun hrest => h (by rw [hrest])).imp (fun hcs => Or.inr ⟨rfl, hcs⟩)
              fun hds => Or.inr ⟨rfl, hds⟩
          · exact Or.inr (Or.inl hlt)

theorem pairwise_insertOnce {t : Text} {us : List Text} (h : us.Pairwise Before) :
    (insertOnce t us).Pairwise Before := by
  induction us with
  | nil =>
      exact List.pairwise_singleton _ t
  | cons u us ih =>
      obtain ⟨hhead, htail⟩ := List.pairwise_cons.mp h
      unfold insertOnce
      split
      · exact h
      · next hne =>
        split
        · next hbefore =>
          have htu := before_of_comesBefore hbefore
          refine List.pairwise_cons.mpr ⟨fun v hv => ?_, h⟩
          rcases List.mem_cons.mp hv with rfl | hv
          · exact htu
          · exact htu.trans (hhead v hv)
        · next hnot =>
          have hut := before_of_comesBefore ((comesBefore_or_comesBefore hne).resolve_left hnot)
          refine List.pairwise_cons.mpr ⟨fun v hv => ?_, ih htail⟩
          rcases mem_insertOnce.mp hv with rfl | hv
          · exact hut
          · exact hhead v hv

/-- Sorted texts are in the order of their bytes. -/
theorem pairwise_sortOnce (ts : List Text) : (sortOnce ts).Pairwise Before := by
  induction ts with
  | nil =>
      exact .nil
  | cons t ts ih =>
      exact pairwise_insertOnce ih

end Text
end IconAssets
