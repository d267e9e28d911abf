import IconAssets.Proofs.Disk.Found
import IconAssets.Proofs.Text.Order
import Mathlib.Data.List.Basic
import Mathlib.Data.List.MinMax

/-!
# What is below a place

A folder is gone through name by name, and each folder in it right after its own entry.  So what is
below a place is listed in the order of the names on the way to it, where of two ways the one comes
first that goes on with the lesser name, or that ends, where they part.

* `mem_below_iff`: what is listed;
* `pairwise_below`: the order of the list.
-/

namespace IconAssets
namespace Disk

variable {d : Disk} {keep : Text → Bool} {p : Place} {names : List Text} {x : Object} {levels : ℕ}

/-- Only folders have something below them. -/
theorem folder_of_below (hnames : names ≠ []) (hx : d.lookup (p ++ names) = some x) :
    d.lookup p = some .folder :=
  lookup_above (mem_above.mpr ⟨List.prefix_append p names, by simpa using hnames⟩) (by simp [hx])

/-- What a visit of a folder lists at and below a name in it. -/
def under (d : Disk) (keep : Text → Bool) (levels : ℕ) (p : Place) (name : Text) :
    List (Place × Object) :=
  match d.lookup (p ++ [name]) with
  | none => []
  | some .folder =>
    ([name], .folder) :: (d.visit keep levels (p ++ [name])).map fun e => (name :: e.1, e.2)
  | some x => [([name], x)]

theorem visit_succ : d.visit keep (levels + 1) p =
    ((d.children p).filter keep).flatMap (d.under keep levels p) := rfl

theorem mem_under_iff {name : Text} :
    (names, x) ∈ d.under keep levels p name ↔
      ∃ rest, names = name :: rest ∧
        (rest = [] ∧ d.lookup (p ++ [name]) = some x ∨
          d.lookup (p ++ [name]) = some .folder ∧
            (rest, x) ∈ d.visit keep levels (p ++ [name])) := by
  unfold under
  constructor
  · intro hmem
    split at hmem
    · cases hmem
    · next hfolder =>
      rcases List.mem_cons.mp hmem with heq | hmem
      · obtain ⟨rfl, rfl⟩ := Prod.mk.inj heq
        exact ⟨[], rfl, Or.inl ⟨rfl, hfolder⟩⟩
      · obtain ⟨⟨rest, y⟩, hrest, heq⟩ := List.mem_map.mp hmem
        obtain ⟨rfl, rfl⟩ := Prod.mk.inj heq
        exact ⟨rest, rfl, Or.inr ⟨hfolder, hrest⟩⟩
    · next hx =>
      obtain ⟨rfl, rfl⟩ := Prod.mk.inj (List.mem_singleton.mp hmem)
      exact ⟨[], rfl, Or.inl ⟨rfl, hx⟩⟩
  · rintro ⟨rest, rfl, ⟨rfl, hx⟩ | ⟨hfolder, hrest⟩⟩
    · rw [hx]
      cases x <;> simp
    · rw [hfolder]
      exact List.mem_cons_of_mem _ (List.mem_map.mpr ⟨_, hrest, rfl⟩)

theorem mem_children_of_mem_under {name : Text} (h : (names, x) ∈ d.under keep levels p name) :
    name ∈ d.children p := by
  rw [mem_children_iff, ne_eq, found_eq_none_iff]
  obtain ⟨rest, -, ⟨-, hx⟩ | ⟨hfolder, -⟩⟩ := mem_under_iff.mp h
  · simp [hx]
  · simp [hfolder]

theorem mem_visit_succ_iff :
    (names, x) ∈ d.visit keep (levels + 1) p ↔
      ∃ name, keep name = true ∧ (names, x) ∈ d.under keep levels p name := by
  rw [visit_succ, List.mem_flatMap]
  constructor
  · rintro ⟨name, hname, hmem⟩
    exact ⟨name, (List.mem_filter.mp hname).2, hmem⟩
  · rintro ⟨name, hkeep, hmem⟩
    exact ⟨name, List.mem_filter.mpr ⟨mem_children_of_mem_under hmem, hkeep⟩, hmem⟩

/-- A visit lists all objects whose names are kept, down to its last level. -/
theorem mem_visit_iff :
    (names, x) ∈ d.visit keep levels p ↔
      names ≠ [] ∧ names.length ≤ levels ∧ (∀ name ∈ names, keep name = true) ∧
        d.lookup (p ++ names) = some x := by
  induction levels generalizing p names with
  | zero =>
      refine iff_of_false List.not_mem_nil ?_
      rintro ⟨hne, hlength, -⟩
      exact hne (List.eq_nil_of_length_eq_zero (by omega))
  | succ levels ih =>
      rw [mem_visit_succ_iff]
      constructor
      · rintro ⟨name, hkeep, hmem⟩
        obtain ⟨rest, rfl, ⟨rfl, hx⟩ | ⟨-, hrest⟩⟩ := mem_under_iff.mp hmem
        · exact ⟨by simp, by simp, by simpa using hkeep, hx⟩
        · obtain ⟨-, hlength, hkeeps, hx⟩ := ih.mp hrest
          rw [List.append_assoc] at hx
          exact ⟨by simp, by simpa using hlength, List.forall_mem_cons.mpr ⟨hkeep, hkeeps⟩, hx⟩
      · rintro ⟨hne, hlength, hkeeps, hx⟩
        obtain ⟨name, rest, rfl⟩ := List.exists_cons_of_ne_nil hne
        obtain ⟨hkeep, hkeeps⟩ := List.forall_mem_cons.mp hkeeps
        refine ⟨name, hkeep, mem_under_iff.mpr ⟨rest, rfl, ?_⟩⟩
        by_cases hrest : rest = []
        · subst hrest
          exact Or.inl ⟨rfl, hx⟩
        · rw [List.append_cons] at hx
          exact Or.inr ⟨folder_of_below hrest hx,
            ih.mpr ⟨hrest, by simpa using hlength, hkeeps, hx⟩⟩

/-- No object has more names than the disk has levels. -/
theorem length_le_height (h : d.lookup p = some x) : p.length ≤ d.height := by
  by_cases hp : p = []
  · simp [hp]
  · have hstored := stored?_of_lookup (d := d) (p := p) (by simp [h])
    rw [stored?, if_neg hp, h, List.lookup_eq_some_iff] at hstored
    obtain ⟨before, behind, hobjects, -⟩ := hstored
    have hlength : p.length ∈ d.objects.map fun e => e.1.length :=
      List.mem_map.mpr ⟨(p, x), by simp [hobjects], rfl⟩
    exact List.le_max_of_le' 0 hlength le_rfl

/-- All objects below a place are listed whose names are kept. -/
theorem mem_below_iff :
    (names, x) ∈ d.below keep p ↔
      names ≠ [] ∧ (∀ name ∈ names, keep name = true) ∧ d.lookup (p ++ names) = some x := by
  rw [below, mem_visit_iff]
  refine and_congr_right fun _ => and_iff_right_of_imp fun ⟨_, hx⟩ => ?_
  have hheight := length_le_height hx
  rw [List.length_append] at hheight
  omega

theorem below_eq_nil (h : d.lookup p ≠ some .folder) : d.below keep p = [] := by
  refine List.eq_nil_iff_forall_not_mem.mpr fun ⟨names, x⟩ hmem => h ?_
  obtain ⟨hne, -, hx⟩ := mem_below_iff.mp hmem
  exact folder_of_below hne hx

theorem pairwise_visit (d : Disk) (keep : Text → Bool) (levels : ℕ) (p : Place) :
    (d.visit keep levels p).Pairwise fun e f => List.Lex Text.Before e.1 f.1 := by
  induction levels generalizing p with
  | zero =>
      exact .nil
  | succ levels ih =>
      rw [visit_succ, List.pairwise_flatMap]
      constructor
      · intro name _
        unfold under
        split
        · exact .nil
        · refine List.pairwise_cons.mpr ⟨fun e he => ?_, ?_⟩
          · obtain ⟨f, hf, rfl⟩ := List.mem_map.mp he
            obtain ⟨head, tail, htail⟩ := List.exists_cons_of_ne_nil (mem_visit_iff.mp hf).1
            rw [htail]
            exact .cons .nil
          · rw [List.pairwise_map]
            exact (ih (p ++ [name])).imp fun hlex => .cons hlex
        · exact List.pairwise_singleton _ _
      · refine ((Text.pairwise_sortOnce _).filter keep).imp fun hbefore e he f hf => ?_
        obtain ⟨front, hfront, -⟩ := mem_under_iff.mp he
        obtain ⟨back, hback, -⟩ := mem_under_iff.mp hf
        rw [hfront, hback]
        exact .rel hbefore

/-- What is below a place is listed in the order of the names on the way to it. -/
theorem pairwise_below (d : Disk) (keep : Text → Bool) (p : Place) :
    (d.below keep p).Pairwise fun e f => List.Lex Text.Before e.1 f.1 :=
  pairwise_visit d keep d.height p

end Disk
end IconAssets
