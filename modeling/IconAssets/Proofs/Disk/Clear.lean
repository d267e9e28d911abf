import IconAssets.Proofs.Disk.Grows

/-!
# Paths that keep clear of a place

A path is clear of a place if it neither passes it nor leads to a folder above it.  This depends on
the text of the path and on the working folder only.  Whatever is below a clear path is clear too.

* `target`: the place a path leads to;
* `mem_trail_iff`: the trail of a path by its moves;
* `target_join`, `mem_trail_join_iff`: paths behind others;
* `Clear.child`, `Clear.of_absolute`: other clear paths;
* `pieces_of_locate`: what is left of a path where it is located;
* `locate_congr`, `locate_eq_ok`: locating on disks that agree along a path.
-/

namespace IconAssets
namespace Disk

/-- The place that a path leads to if all that is needed is there. -/
def target (d : Disk) (p : Path) : Place := travel (d.start p) (Text.pieces '/' p.text)

/-- A path is clear of a place: it does not pass it, nor lead to a folder above it. -/
structure Clear (d : Disk) (place : Place) (p : Path) : Prop where
  aside : place ∉ d.trail p
  notAbove : ¬d.target p <+: place

theorem mem_stops_append_iff {here r : Place} {ps qs : List Text} :
    r ∈ stops here (ps ++ qs) ↔ r ∈ stops here ps ∨ r ∈ stops (travel here ps) qs := by
  induction ps generalizing here with
  | nil =>
      simp only [List.nil_append, stops, List.mem_singleton, travel_nil]
      constructor
      · exact Or.inr
      · rintro (rfl | hr)
        · exact mem_stops_self _ _
        · exact hr
  | cons piece ps ih =>
      simp only [List.cons_append, stops, List.mem_cons, ih, travel_cons, or_assoc]

theorem mem_stops_filter_iff {here r : Place} {pieces : List Text} :
    r ∈ stops here (pieces.filter fun piece => !Path.isIdle piece) ↔ r ∈ stops here pieces := by
  induction pieces generalizing here with
  | nil =>
      rfl
  | cons piece pieces ih =>
      cases hidle : Path.isIdle piece with
      | true =>
          have hturn : turn here piece = here := by simp [turn, hidle]
          simp only [hidle, Bool.not_true, Bool.false_eq_true, not_false_eq_true,
            List.filter_cons_of_neg, ih, stops, List.mem_cons, hturn]
          constructor
          · exact Or.inr
          · rintro (rfl | hr)
            · exact mem_stops_self _ _
            · exact hr
      | false =>
          simp only [hidle, Bool.not_false, List.filter_cons_of_pos, stops, List.mem_cons, ih]

theorem mem_trail_iff {d : Disk} {p : Path} {r : Place} :
    r ∈ d.trail p ↔ r ∈ stops (d.start p) p.moves :=
  mem_stops_filter_iff.symm

/-- A path leads where its moves lead. -/
theorem target_eq_travel_moves (d : Disk) (p : Path) : d.target p = travel (d.start p) p.moves :=
  (travel_filter _ _).symm

theorem target_mem_trail (d : Disk) (p : Path) : d.target p ∈ d.trail p := travel_mem_stops _ _

/-- A path that names a place leads there. -/
theorem eq_target_of_resolve {d : Disk} {p : Path} {q : Place} (h : d.resolve p = .ok q) :
    q = d.target p :=
  eq_travel_of_walk (found_start_of_resolve h).1

/-- What a path names is found where it leads. -/
theorem found_target_of_foundAt {d : Disk} {p : Path} {x : Object} (h : d.foundAt p = some x) :
    d.found (d.target p) = some x := by
  unfold foundAt at h
  split at h
  · cases h
  · next place hplace =>
    rwa [← eq_target_of_resolve hplace]

/-- Trails, targets and absolute paths depend on the working folder only. -/
theorem trail_congr {d e : Disk} (h : e.working = d.working) (p : Path) :
    e.trail p = d.trail p := by
  rw [trail, trail, start_congr h]

theorem target_congr {d e : Disk} (h : e.working = d.working) (p : Path) :
    e.target p = d.target p := by
  rw [target, target, start_congr h]

theorem absolute_congr {d e : Disk} (h : e.working = d.working) (p : Path) :
    e.absolute p = d.absolute p := by
  rw [absolute, absolute, h]

/-- A path behind another leads on from where that leads. -/
theorem target_join (d : Disk) {p q : Path} (hq : q.isAbsolute = false) :
    d.target (p.join q) = travel (d.target p) q.moves := by
  rw [target_eq_travel_moves, target_eq_travel_moves, start, Path.isAbsolute_join hq, ← start,
    Path.moves_join hq, travel, List.foldl_append]
  rfl

theorem mem_trail_join_iff {d : Disk} {p q : Path} {r : Place} (hq : q.isAbsolute = false) :
    r ∈ d.trail (p.join q) ↔ r ∈ d.trail p ∨ r ∈ stops (d.target p) q.moves := by
  rw [mem_trail_iff, mem_trail_iff, start, Path.isAbsolute_join hq, ← start, Path.moves_join hq,
    mem_stops_append_iff, ← target_eq_travel_moves]

/-- A path that ends in a name leads to an object of that name in the folder of the rest. -/
theorem target_child (d : Disk) (p : Path) {name : Text} (h : Path.IsName name) :
    d.target (p.child name) = d.target p ++ [name] := by
  rw [Path.child, target_join d h.isAbsolute_mk, Path.moves_name h]
  simp [turn, h.not_idle, h.not_up]

theorem target_child_ne_nil {d : Disk} {p : Path} {name : Text} (h : Path.IsName name) :
    d.target (p.child name) ≠ [] := by
  rw [target_child d p h]
  simp

theorem mem_trail_child_iff {d : Disk} {p : Path} {name : Text} {r : Place}
    (h : Path.IsName name) :
    r ∈ d.trail (p.child name) ↔ r ∈ d.trail p ∨ r = d.target p ++ [name] := by
  have hturn : turn (d.target p) name = d.target p ++ [name] := by
    simp [turn, h.not_idle, h.not_up]
  rw [Path.child, mem_trail_join_iff h.isAbsolute_mk, Path.moves_name h]
  simp only [stops, hturn, List.mem_cons, List.not_mem_nil, or_false]
  constructor
  · rintro (hr | rfl | rfl)
    · exact Or.inl hr
    · exact Or.inl (target_mem_trail d p)
    · exact Or.inr rfl
  · rintro (hr | rfl)
    · exact Or.inl hr
    · exact Or.inr (Or.inr rfl)

/-- The moves of a relative path are gone behind those to the working folder by the absolute
path. -/
theorem moves_absolute {d : Disk} {p : Path} (h : p.isAbsolute = false) :
    d.start (d.absolute p) = [] ∧
      (d.absolute p).moves = Path.moves ⟨'/' :: Text.glue '/' d.working⟩ ++ p.moves ∧
        travel [] (Path.moves ⟨'/' :: Text.glue '/' d.working⟩) = d.start p := by
  refine ⟨?_, by rw [absolute, Path.moves_join h], ?_⟩
  · rw [start, absolute, Path.isAbsolute_join h]
    rfl
  · rw [start, h, home, Path.moves, Text.pieces_sep_cons,
      Path.filter_moves_cons_idle Path.isIdle_nil, travel_filter]
    rfl

theorem target_absolute (d : Disk) (p : Path) : d.target (d.absolute p) = d.target p := by
  cases h : p.isAbsolute with
  | true =>
      rw [absolute, Path.join, if_pos h]
  | false =>
      obtain ⟨hstart, hmoves, hfront⟩ := moves_absolute (d := d) h
      rw [target_eq_travel_moves, target_eq_travel_moves, hstart, hmoves, travel,
        List.foldl_append, ← hfront]
      rfl

theorem mem_trail_absolute_iff {d : Disk} {p : Path} {r : Place} (h : p.isAbsolute = false) :
    r ∈ d.trail (d.absolute p) ↔
      r ∈ stops [] (Path.moves ⟨'/' :: Text.glue '/' d.working⟩) ∨ r ∈ d.trail p := by
  obtain ⟨hstart, hmoves, hfront⟩ := moves_absolute (d := d) h
  rw [mem_trail_iff, hstart, hmoves, mem_stops_append_iff, hfront, ← mem_trail_iff]

/-- The way of a path is the end of the way of the absolute path. -/
theorem trail_subset_absolute (d : Disk) (p : Path) : d.trail p ⊆ d.trail (d.absolute p) := by
  cases h : p.isAbsolute with
  | true =>
      rw [absolute, Path.join, if_pos h]
      exact List.Subset.refl _
  | false =>
      exact fun r hr => (mem_trail_absolute_iff h).mpr (Or.inr hr)

namespace Clear

variable {d : Disk} {place : Place} {p q : Path}

/-- What is below a clear path is clear. -/
theorem child (h : d.Clear place p) {name : Text} (hname : Path.IsName name) :
    d.Clear place (p.child name) := by
  have habove : ¬d.target p ++ [name] <+: place := fun hbelow =>
    h.notAbove ((List.prefix_append _ _).trans hbelow)
  constructor
  · rw [mem_trail_child_iff hname]
    rintro (hr | rfl)
    · exact h.aside hr
    · exact habove (List.prefix_refl _)
  · rwa [target_child d p hname]

theorem of_absolute (h : d.Clear place (d.absolute p)) : d.Clear place p := by
  refine ⟨fun hr => h.aside (trail_subset_absolute d p hr), fun habove => h.notAbove ?_⟩
  rwa [target_absolute]

theorem target_append_ne (h : d.Clear place p) (r : Place) : d.target p ++ r ≠ place := by
  rintro rfl
  exact h.notAbove (List.prefix_append _ _)

end Clear

/-- The pieces of a path in front of its last one that is not empty. -/
theorem pieces_of_dropWhile {pieces before : List Text} {last : Text}
    (h : pieces.reverse.dropWhile (· = []) = last :: before) :
    ∃ slashes, pieces = before.reverse ++ last :: slashes ∧ ∀ piece ∈ slashes, piece = [] := by
  refine ⟨(pieces.reverse.takeWhile (· = [])).reverse, ?_, fun piece hpiece => ?_⟩
  · have hall := List.takeWhile_append_dropWhile (p := fun t : Text => t = []) (l := pieces.reverse)
    rw [h] at hall
    simpa using (congrArg List.reverse hall).symm
  · simpa using List.mem_takeWhile_imp (List.mem_reverse.mp hpiece)

/-- Empty pieces lead nowhere else. -/
theorem travel_of_empty {pieces : List Text} (h : ∀ piece ∈ pieces, piece = []) (here : Place) :
    travel here pieces = here := by
  induction pieces with
  | nil =>
      rfl
  | cons piece pieces ih =>
      rw [travel_cons, h piece (by simp)]
      exact ih fun t ht => h t (List.mem_cons_of_mem _ ht)

/-- An object is located in the same way on a disk on which the same is found along the path. -/
theorem locate_congr {d e : Disk} {p : Path} (hstart : e.start p = d.start p)
    (h : ∀ r ∈ d.trail p, d.found r = e.found r) : d.locate p = e.locate p := by
  unfold locate
  cases textFault? p with
  | some fault =>
      rfl
  | none =>
      dsimp only
      rw [hstart]
      cases hlast : (Text.pieces '/' p.text).reverse.dropWhile (· = []) with
      | nil =>
          rfl
      | cons last before =>
          obtain ⟨slashes, hpieces, -⟩ := pieces_of_dropWhile hlast
          have hfront : ∀ r ∈ stops (d.start p) before.reverse, d.found r = e.found r :=
            fun r hr => h r (by rw [trail, hpieces, mem_stops_append_iff]; exact Or.inl hr)
          have hwalk := walk_congr hfront
          dsimp only
          rw [← hwalk]
          cases hfolder : d.walk (d.start p) before.reverse with
          | error fault =>
              rfl
          | ok folder =>
              have hfound : d.found folder = e.found folder :=
                hfront folder (by rw [eq_travel_of_walk hfolder]; exact travel_mem_stops _ _)
              have hsame : d.lookup folder = some .folder ↔ e.lookup folder = some .folder := by
                rw [← found_eq_folder_iff, hfound, found_eq_folder_iff]
              simp only [ne_eq, hsame]

/-- An object is located by its name, with pieces in front that lead to its folder.  Slashes may
follow. -/
theorem pieces_of_locate {d : Disk} {p : Path} {folder : Place} {name : Text} {slash : Bool}
    (h : d.locate p = .ok ⟨folder, some name, slash⟩) :
    textFault? p = none ∧ ∃ front slashes,
      Text.pieces '/' p.text = front ++ name :: slashes ∧ (∀ piece ∈ slashes, piece = []) ∧
        (slash = false → slashes = []) ∧ d.walk (d.start p) front = .ok folder ∧
          Path.isIdle name = false ∧ isUp name = false := by
  unfold locate at h
  split at h
  · cases h
  · next htext =>
    dsimp only at h
    split at h
    · cases h
    · next last before hlast =>
      obtain ⟨slashes, hpieces, hempty⟩ := pieces_of_dropWhile hlast
      split at h
      · cases h
      · next q hwalk =>
        split at h
        · cases h
        · split at h
          · cases h
          · next hname =>
            rw [Bool.not_eq_true, Bool.or_eq_false_iff] at hname
            cases h
            refine ⟨htext, before.reverse, slashes, hpieces, hempty, fun hslash => ?_, hwalk, hname⟩
            cases hslashes : slashes.reverse with
            | nil =>
                simpa using hslashes
            | cons piece pieces =>
                have hnil : piece = [] := hempty piece (by
                  rw [← List.mem_reverse, hslashes]
                  exact List.mem_cons_self)
                rw [decide_eq_false_iff_not, hpieces] at hslash
                simp [hslashes, hnil] at hslash

/-- An object that is located by its name is in a folder, at the place that the path leads to. -/
theorem locate_eq_ok {d : Disk} {p : Path} {folder : Place} {name : Text} {slash : Bool}
    (h : d.locate p = .ok ⟨folder, some name, slash⟩) :
    d.found folder = some .folder ∧ d.target p = folder ++ [name] := by
  refine ⟨found_of_locate h (by simp), ?_⟩
  obtain ⟨-, front, slashes, hpieces, hempty, -, hwalk, hname⟩ := pieces_of_locate h
  have hturn : turn folder name = folder ++ [name] := by simp [turn, hname]
  rw [target, hpieces, travel, List.foldl_append, List.foldl_cons]
  change travel (turn (travel (d.start p) front) name) slashes = _
  rw [travel_of_empty hempty, ← eq_travel_of_walk hwalk, hturn]

end Disk
end IconAssets
