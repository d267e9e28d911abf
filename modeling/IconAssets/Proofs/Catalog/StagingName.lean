import IconAssets.Catalog.Generate
import IconAssets.Proofs.Path.Length
import Mathlib.Data.List.Basic
import Mathlib.Data.List.Nodup
import Mathlib.Data.List.Perm.Subperm

/-!
# Names of staging directories

There are more staging names than names to avoid, so one of them is free.  No staging name is a name
of a catalog, of a catalog that is set aside, or of an image.

* `freshName_not_mem`: the name that is chosen is not to be avoided;
* `freshName_congr`: what the choice depends on;
* `isName_stagingName`: staging names are names;
* `stagingName_ne_of_head`, `stagingName_ne_of_last`: names that are no staging names.
-/

namespace IconAssets
namespace Catalog

theorem stagingName_injective : Function.Injective stagingName := by
  intro m n h
  unfold stagingName at h
  rw [List.append_assoc, List.append_assoc] at h
  have hdigits := List.append_cancel_left h
  have hvalue := congrArg (fun t => Nat.ofDigitChars 10 t 0) hdigits
  simpa [Nat.ofDigitChars_append, Text.ofNat] using hvalue

/-- The search for a free number ends at one, or all it has tried are taken. -/
theorem freshNumber_spec (avoid : List Text) (room n : Nat) :
    stagingName (freshNumber avoid room n) ∉ avoid ∨
      ∀ k < room, stagingName (n + k) ∈ avoid := by
  induction room generalizing n with
  | zero =>
      exact Or.inr fun k hk => absurd hk (Nat.not_lt_zero k)
  | succ room ih =>
      unfold freshNumber
      split
      · next htaken =>
        rcases ih (n + 1) with hfree | hall
        · exact Or.inl hfree
        · refine Or.inr fun k hk => ?_
          cases k with
          | zero =>
              exact htaken
          | succ k =>
              have hk' := hall k (by omega)
              rwa [show n + 1 + k = n + (k + 1) by omega] at hk'
      · next hfree =>
        exact Or.inl hfree

theorem freshName_not_mem (avoid : List Text) : freshName avoid ∉ avoid := by
  rcases freshNumber_spec avoid (avoid.length + 1) 0 with hfree | hall
  · exact hfree
  · -- More different names than `avoid` has items cannot all be in it.
    have hnodup : ((List.range (avoid.length + 1)).map stagingName).Nodup :=
      List.Nodup.map stagingName_injective List.nodup_range
    have hsub : (List.range (avoid.length + 1)).map stagingName ⊆ avoid := by
      intro name hname
      obtain ⟨k, hk, rfl⟩ := List.mem_map.mp hname
      have hmem := hall k (List.mem_range.mp hk)
      rwa [Nat.zero_add] at hmem
    have hlength := (List.subperm_of_subset hnodup hsub).length_le
    rw [List.length_map, List.length_range] at hlength
    omega

/-- The numbers that the search has passed are taken. -/
theorem mem_of_lt_freshNumber {avoid : List Text} {room n k : Nat} (hn : n ≤ k)
    (hk : k < freshNumber avoid room n) : stagingName k ∈ avoid := by
  induction room generalizing n with
  | zero =>
      exact absurd hk (Nat.not_lt.mpr hn)
  | succ room ih =>
      unfold freshNumber at hk
      split at hk
      · next htaken =>
        rcases Nat.eq_or_lt_of_le hn with rfl | hlt
        · exact htaken
        · exact ih hlt hk
      · exact absurd hk (Nat.not_lt.mpr hn)

/-- The name that is chosen depends only on which staging names are to be avoided. -/
theorem freshName_congr {avoid other : List Text}
    (h : ∀ n, stagingName n ∈ avoid ↔ stagingName n ∈ other) :
    freshName avoid = freshName other := by
  have hfree := freshName_not_mem avoid
  have hfree' := freshName_not_mem other
  unfold freshName at hfree hfree' ⊢
  rcases Nat.lt_trichotomy (freshNumber avoid (avoid.length + 1) 0)
    (freshNumber other (other.length + 1) 0) with hlt | heq | hlt
  · exact absurd ((h _).mpr (mem_of_lt_freshNumber (Nat.zero_le _) hlt)) hfree
  · rw [heq]
  · exact absurd ((h _).mp (mem_of_lt_freshNumber (Nat.zero_le _) hlt)) hfree'

theorem stagingName_eq (n : Nat) : ∃ digits, digits ≠ [] ∧ (∀ c ∈ digits, c.isDigit = true) ∧
    stagingName n = stagingStem ++ digits := by
  refine ⟨List.replicate (6 - (Text.ofNat n).length) '0' ++ Text.ofNat n, ?_, ?_, ?_⟩
  · simp [Text.ofNat, Nat.toDigits_ne_nil]
  · intro c hc
    rcases List.mem_append.mp hc with hzero | hdigit
    · rw [List.eq_of_mem_replicate hzero]
      decide
    · exact Nat.isDigit_of_mem_toDigits (by decide) (by decide) hdigit
  · rw [stagingName, List.append_assoc]

theorem le_byteLength_stagingName (n : Nat) : 22 ≤ Text.byteLength (stagingName n) := by
  have hlength := Text.length_le_byteLength (stagingName n)
  have hstem : stagingStem.length = 16 := by decide
  unfold stagingName at hlength ⊢
  rw [List.length_append, List.length_append, List.length_replicate] at hlength
  omega

theorem isName_stagingName (n : Nat) : Path.IsName (stagingName n) := by
  obtain ⟨digits, hne, hdigits, hname⟩ := stagingName_eq n
  rw [hname]
  refine ⟨?_, rfl, rfl⟩
  intro hslash
  rcases List.mem_append.mp hslash with hstem | hdigit
  · exact absurd hstem (by decide)
  · exact absurd (hdigits '/' hdigit) (by decide)

theorem nul_not_mem_stagingName (n : Nat) : '\x00' ∉ stagingName n := by
  obtain ⟨digits, -, hdigits, hname⟩ := stagingName_eq n
  rw [hname]
  intro hmem
  rcases List.mem_append.mp hmem with hstem | hdigit
  · exact absurd hstem (by decide)
  · exact absurd (hdigits _ hdigit) (by decide)

theorem isName_freshName (avoid : List Text) : Path.IsName (freshName avoid) :=
  isName_stagingName _

/-- A name that starts otherwise is no staging name. -/
theorem stagingName_ne_of_head {name : Text} (h : ¬stagingStem <+: name) (n : Nat) :
    stagingName n ≠ name := by
  rintro rfl
  obtain ⟨digits, -, -, hname⟩ := stagingName_eq n
  exact h (hname ▸ List.prefix_append _ _)

/-- A name that does not end in a digit is no staging name. -/
theorem stagingName_ne_of_last {name : Text} {c : Char} (h : name.getLast? = some c)
    (hc : c.isDigit = false) (n : Nat) : stagingName n ≠ name := by
  rintro rfl
  obtain ⟨digits, hne, hdigits, hname⟩ := stagingName_eq n
  rw [hname, List.getLast?_append_of_ne_nil _ hne] at h
  rw [hdigits c (List.mem_of_getLast? h)] at hc
  cases hc

end Catalog
end IconAssets
