import IconAssets.Disk.View
import Mathlib.Tactic.ByContra

/-!
# What is found on a disk

Nobody can tell from a device whether what was written to it has been sent.  What is found at a
place is the object that is there up to this difference.  The objects found make up a tree, and each
change of a disk is described by all objects that are found afterwards.

* `found_above`: only folders have something below them;
* `found_put`, `found_clear`, `found_move`, `found_sent`: what changes do.
-/

namespace IconAssets

/-- An object when all has been sent to it. -/
def Object.settled : Object → Object
  | .device x => .device x.sent
  | x => x

namespace Disk

/-- What is at a place, with all that was written to it sent. -/
def found (d : Disk) (p : Place) : Option Object := (d.lookup p).map Object.settled

theorem found_eq_folder_iff {d : Disk} {p : Place} :
    d.found p = some .folder ↔ d.lookup p = some .folder := by
  unfold found
  cases d.lookup p with
  | none =>
      simp
  | some x =>
      cases x <;> simp [Object.settled]

theorem found_eq_file_iff {d : Disk} {p : Place} {data : Bytes} {runnable : Bool} :
    d.found p = some (.file data runnable) ↔ d.lookup p = some (.file data runnable) := by
  unfold found
  cases d.lookup p with
  | none =>
      simp
  | some x =>
      cases x <;> simp [Object.settled]

theorem found_eq_none_iff {d : Disk} {p : Place} : d.found p = none ↔ d.lookup p = none := by
  simp [found]

@[simp] theorem found_nil (d : Disk) : d.found [] = some .folder := by
  simp [found, Object.settled]

/-- Above something that is there folders are listed. -/
theorem stored?_above {d : Disk} {p : Place} (hp : d.lookup p ≠ none) :
    ∀ q ∈ above p, d.stored? q = some .folder := by
  by_contra hnot
  refine hp (if_neg fun h => hnot ?_)
  simpa using h

/-- Above something that is there are folders. -/
theorem lookup_above {d : Disk} {p q : Place} (hq : q ∈ above p) (hp : d.lookup p ≠ none) :
    d.lookup q = some .folder := by
  have hall := stored?_above hp
  have habove : ((above q).all fun r => d.stored? r = some .folder) = true := by
    rw [List.all_eq_true]
    intro r hr
    have hrp : r ∈ above p := by
      obtain ⟨hrq, hne⟩ := mem_above.mp hr
      refine mem_above.mpr ⟨hrq.trans (prefix_of_mem_above hq), ?_⟩
      rintro rfl
      exact hne (hrq.eq_of_length_le (prefix_of_mem_above hq).length_le)
    simpa using hall r hrp
  rw [lookup, if_pos habove]
  exact hall q hq

/-- A folder is not below what is in it. -/
theorem not_child_prefix (p : Place) (name : Text) : ¬p ++ [name] <+: p := fun h => by
  have hlength := h.length_le
  rw [List.length_append, List.length_singleton] at hlength
  omega

/-- Only folders have something below them. -/
theorem found_above {d : Disk} {p q : Place} (hpq : p <+: q) (hne : p ≠ q)
    (hq : d.found q ≠ none) : d.found p = some .folder := by
  rw [found_eq_folder_iff]
  refine lookup_above (mem_above.mpr ⟨hpq, hne⟩) fun hnone => ?_
  exact hq (found_eq_none_iff.mpr hnone)

theorem found_below {d : Disk} {p q : Place} (hpq : p <+: q) (hp : d.found p = none) :
    d.found q = none := by
  by_contra hq
  by_cases hne : p = q
  · exact hq (hne ▸ hp)
  · rw [found_above hpq hne hq] at hp
    cases hp

/-- Sending what was written changes nothing that is found. -/
theorem found_sent (d : Disk) : d.sent.found = d.found := by
  have hstored : ∀ q, d.sent.stored? q = (d.stored? q).map fun x =>
      match x with
      | .device x => .device x.sent
      | x => x := by
    intro q
    unfold stored? sent
    split
    · rfl
    · induction d.objects with
      | nil =>
          rfl
      | cons e es ih =>
          obtain ⟨r, x⟩ := e
          by_cases hr : q = r
          · subst hr
            cases x <;> simp
          · cases x <;> simpa [lookup_cons_eq, hr] using ih
  have hfolder : ∀ q, d.sent.stored? q = some .folder ↔ d.stored? q = some .folder := by
    intro q
    rw [hstored]
    cases d.stored? q with
    | none =>
        simp
    | some x =>
        cases x <;> simp
  funext q
  unfold found lookup
  simp only [hfolder]
  split
  · rw [hstored]
    cases d.stored? q with
    | none =>
        rfl
    | some x =>
        cases x with
        | device x =>
            cases x <;> rfl
        | folder =>
            rfl
        | file data runnable =>
            rfl
  · rfl

/-- An object that is put into a folder is found at its place, with nothing below it, and all else
as before. -/
theorem found_put_of_folder {d : Disk} {p : Place} {name : Text} (hp : d.found p = some .folder)
    (x : Object) (q : Place) :
    (d.put (p ++ [name]) x).found q =
      if q = p ++ [name] then some x.settled
      else if p ++ [name] <+: q then none else d.found q := by
  have hlookup := @lookup_put d p name (found_eq_folder_iff.mp hp) x q
  rw [found, hlookup]
  by_cases hq : q = p ++ [name]
  · rw [if_pos hq, if_pos hq]
    rfl
  · rw [if_neg hq, if_neg hq]
    simp only [List.isPrefixOf_iff_prefix]
    split <;> rfl

/-- A new object in a folder is found at its place, and all else as before. -/
theorem found_put {d : Disk} {p : Place} {name : Text} (hp : d.found p = some .folder)
    (hname : d.found (p ++ [name]) = none) (x : Object) (q : Place) :
    (d.put (p ++ [name]) x).found q = if q = p ++ [name] then some x.settled else d.found q := by
  rw [found_put_of_folder hp]
  split
  · rfl
  · split
    · next hbelow =>
      exact (found_below hbelow hname).symm
    · rfl

/-- Nothing is found any more at and below a place that has been cleared. -/
theorem found_clear (d : Disk) {p : Place} (hp : p ≠ []) (q : Place) :
    (d.clear p).found q = if p <+: q then none else d.found q := by
  rw [found, lookup_clear d hp]
  by_cases hpq : p <+: q
  · rw [if_pos hpq, if_pos (List.isPrefixOf_iff_prefix.mpr hpq)]
    rfl
  · rw [if_neg hpq, if_neg fun h => hpq (List.isPrefixOf_iff_prefix.mp h)]
    rfl

/-- The places above something in a subtree are those above the subtree and those within it. -/
theorem above_append (p q : Place) : above (p ++ q) = above p ++ (above q).map (p ++ ·) := by
  induction p with
  | nil =>
      simp
  | cons name p ih =>
      simp [ih]

theorem stored?_of_lookup {d : Disk} {p : Place} (hp : d.lookup p ≠ none) :
    d.stored? p = d.lookup p := by
  unfold lookup at hp ⊢
  split
  · rfl
  · next h =>
    rw [if_neg h] at hp
    exact absurd rfl hp

/-- Moving an object into a folder takes everything below it along, and changes nothing else. -/
theorem lookup_move {d : Disk} {s p : Place} {name : Text} (hs : d.lookup s ≠ none)
    (hp : d.lookup p = some .folder) (hst : ¬s <+: p ++ [name]) (hts : ¬p ++ [name] <+: s)
    (q : Place) :
    (d.move s (p ++ [name])).lookup q =
      if p ++ [name] <+: q then d.lookup (s ++ q.drop (p ++ [name]).length)
      else if s <+: q then none else d.lookup q := by
  have hstored := stored?_move d hst hts
  simp only [List.isPrefixOf_iff_prefix] at hstored
  by_cases hq : p ++ [name] <+: q
  · obtain ⟨u, rfl⟩ := hq
    rw [if_pos (List.prefix_append _ u), List.drop_left]
    have hbelow : ∀ v, (d.move s (p ++ [name])).stored? (p ++ [name] ++ v) =
        d.stored? (s ++ v) := by
      intro v
      rw [hstored, if_pos (List.prefix_append _ v), List.drop_left]
    have htarget : ∀ r ∈ above (p ++ [name]),
        (d.move s (p ++ [name])).stored? r = some .folder := by
      intro r hr
      obtain ⟨hrt, hne⟩ := mem_above.mp hr
      rw [hstored, if_neg fun h => hne (hrt.eq_of_length_le h.length_le),
        if_neg fun h => hst (h.trans hrt)]
      rw [above_append_singleton, List.mem_append, List.mem_singleton] at hr
      rcases hr with hr | rfl
      · exact stored?_above (by simp [hp]) r hr
      · rw [stored?_of_lookup (by simp [hp]), hp]
    have hall : ((above (p ++ [name] ++ u)).all fun r =>
          (d.move s (p ++ [name])).stored? r = some .folder) =
        (above (s ++ u)).all fun r => d.stored? r = some .folder := by
      rw [above_append (p ++ [name]) u, above_append s u, List.all_append, List.all_append,
        List.all_eq_true.mpr fun r hr => decide_eq_true (htarget r hr),
        List.all_eq_true.mpr fun r hr => decide_eq_true (stored?_above hs r hr),
        List.all_map, List.all_map]
      simp only [Function.comp_def, hbelow]
    unfold lookup
    rw [hall, hbelow]
  · rw [if_neg hq]
    by_cases hsq : s <+: q
    · rw [if_pos hsq]
      exact lookup_eq_none_of_stored? (by rw [hstored, if_neg hq, if_pos hsq])
    · rw [if_neg hsq]
      refine lookup_congr (by rw [hstored, if_neg hq, if_neg hsq]) fun r hr => ?_
      have hrq := prefix_of_mem_above hr
      rw [hstored, if_neg fun h => hq (h.trans hrq), if_neg fun h => hsq (h.trans hrq)]

/-- An object that has been moved into a folder is found there with everything below it, and no
longer where it was. -/
theorem found_move {d : Disk} {s p : Place} {name : Text} (hs : d.found s ≠ none)
    (hp : d.found p = some .folder) (hst : ¬s <+: p ++ [name])
    (hname : d.found (p ++ [name]) = none) (q : Place) :
    (d.move s (p ++ [name])).found q =
      if p ++ [name] <+: q then d.found (s ++ q.drop (p ++ [name]).length)
      else if s <+: q then none else d.found q := by
  have hts : ¬p ++ [name] <+: s := fun h => hs (found_below h hname)
  have hlookup := lookup_move (fun h => hs (found_eq_none_iff.mpr h)) (found_eq_folder_iff.mp hp)
    hst hts q
  rw [found, hlookup]
  split
  · rfl
  · split <;> rfl

/-- Where the same is found, the same is there, up to what has been sent to a device. -/
theorem lookup_cases {d e : Disk} {p : Place} (h : d.found p = e.found p) :
    (d.lookup p = none ∧ e.lookup p = none) ∨
      (d.lookup p = some .folder ∧ e.lookup p = some .folder) ∨
        (∃ data runnable, d.lookup p = some (.file data runnable) ∧
          e.lookup p = some (.file data runnable)) ∨
          ∃ x y, d.lookup p = some (.device x) ∧ e.lookup p = some (.device y) ∧
            x.sent = y.sent := by
  cases hd : d.lookup p with
  | none =>
      rw [found_eq_none_iff.mpr hd] at h
      exact Or.inl ⟨rfl, found_eq_none_iff.mp h.symm⟩
  | some x =>
      cases x with
      | folder =>
          rw [found_eq_folder_iff.mpr hd] at h
          exact Or.inr (Or.inl ⟨rfl, found_eq_folder_iff.mp h.symm⟩)
      | file data runnable =>
          rw [found_eq_file_iff.mpr hd] at h
          exact Or.inr (Or.inr (Or.inl ⟨data, runnable, rfl, found_eq_file_iff.mp h.symm⟩))
      | device x =>
          rw [found, hd, found] at h
          obtain ⟨y, hy, hxy⟩ := Option.map_eq_some_iff.mp h.symm
          cases y with
          | folder =>
              cases hxy
          | file data runnable =>
              cases hxy
          | device y =>
              exact Or.inr (Or.inr (Or.inr ⟨x, y, rfl, hy, (Object.device.inj hxy).symm⟩))

/-- The names in a folder are those under which something is found. -/
theorem mem_children_iff {d : Disk} {p : Place} {name : Text} :
    name ∈ d.children p ↔ d.found (p ++ [name]) ≠ none := by
  unfold children
  rw [Text.mem_sortOnce, List.mem_filter, ne_eq, found_eq_none_iff, Option.isSome_iff_ne_none]
  refine and_iff_right_of_imp fun hname => ?_
  have hstored := stored?_of_lookup hname
  rw [stored?, if_neg (by simp)] at hstored
  obtain ⟨x, hx⟩ := Option.ne_none_iff_exists'.mp hname
  rw [hx, List.lookup_eq_some_iff] at hstored
  obtain ⟨before, behind, heq, -⟩ := hstored
  refine List.mem_filterMap.mpr ⟨(p ++ [name], x), by simp [heq], ?_⟩
  simp [nameBelow?]

end Disk
end IconAssets
