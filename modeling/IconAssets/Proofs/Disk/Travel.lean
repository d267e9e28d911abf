import IconAssets.Disk.Walk
import IconAssets.Proofs.Disk.Found

/-!
# The way along a path

A walk that gets through ends where the pieces say, whatever the disk.  On the way it looks at some
places and at nothing else, so two disks on which the same is found there let it end in the same
way.

* `eq_travel_of_walk`: where a walk ends;
* `found_of_mem_stops`: a walk that gets through finds something at all its stops;
* `walk_congr`, `walk_of_agree`: the walk on another disk;
* `mem_of_mem_stops`: the names that occur on the way;
* `prefix_of_mem_stops`: a way that does not go up stays below its start;
* `mem_stops_of_leave`: a way that leaves a folder passes it.
-/

namespace IconAssets
namespace Disk

/-- The places that a walk looks at. -/
def stops : Place → List Text → List Place
  | here, [] => [here]
  | here, piece :: pieces => here :: stops (turn here piece) pieces

@[simp] theorem travel_nil (here : Place) : travel here [] = here := rfl

@[simp] theorem travel_cons (here : Place) (piece : Text) (pieces : List Text) :
    travel here (piece :: pieces) = travel (turn here piece) pieces := rfl

theorem mem_stops_self (here : Place) (pieces : List Text) : here ∈ stops here pieces := by
  cases pieces <;> simp [stops]

/-- The place a walk leads to is its last stop. -/
theorem travel_mem_stops (here : Place) (pieces : List Text) :
    travel here pieces ∈ stops here pieces := by
  induction pieces generalizing here with
  | nil =>
      simp [stops]
  | cons piece pieces ih =>
      exact List.mem_cons_of_mem _ (ih (turn here piece))

/-- The names on the way are those of the start and the pieces. -/
theorem mem_of_mem_stops {here q : Place} {pieces : List Text} {name : Text}
    (hq : q ∈ stops here pieces) (hname : name ∈ q) : name ∈ here ∨ name ∈ pieces := by
  induction pieces generalizing here with
  | nil =>
      rw [stops, List.mem_singleton] at hq
      exact Or.inl (hq ▸ hname)
  | cons piece pieces ih =>
      rw [stops, List.mem_cons] at hq
      rcases hq with rfl | hq
      · exact Or.inl hname
      · rcases ih hq with hturn | hpieces
        · unfold turn at hturn
          split at hturn
          · exact Or.inl hturn
          · split at hturn
            · exact Or.inl (List.dropLast_subset here hturn)
            · rcases List.mem_append.mp hturn with hhere | hpiece
              · exact Or.inl hhere
              · exact Or.inr (by simp [List.mem_singleton.mp hpiece])
        · exact Or.inr (List.mem_cons_of_mem _ hpieces)

/-- A piece that does not go up stays or goes down. -/
theorem prefix_turn {piece : Text} (h : isUp piece = false) (here : Place) :
    here <+: turn here piece := by
  unfold turn
  split
  · exact List.prefix_refl here
  · rw [if_neg (by simp [h])]
    exact List.prefix_append here _

/-- A way that does not go up stays below its start. -/
theorem prefix_of_mem_stops {here r : Place} {pieces : List Text}
    (h : ∀ piece ∈ pieces, isUp piece = false) (hr : r ∈ stops here pieces) : here <+: r := by
  induction pieces generalizing here with
  | nil =>
      rw [stops, List.mem_singleton] at hr
      exact hr ▸ List.prefix_refl r
  | cons piece pieces ih =>
      rcases List.mem_cons.mp hr with rfl | hr
      · exact List.prefix_refl r
      · exact (prefix_turn (h piece List.mem_cons_self) here).trans
          (ih (fun t ht => h t (List.mem_cons_of_mem _ ht)) hr)

/-- A way that does not go up stays above its end. -/
theorem prefix_travel_of_mem_stops {here r : Place} {pieces : List Text}
    (h : ∀ piece ∈ pieces, isUp piece = false) (hr : r ∈ stops here pieces) :
    r <+: travel here pieces := by
  induction pieces generalizing here r with
  | nil =>
      rw [stops, List.mem_singleton] at hr
      exact hr ▸ List.prefix_refl r
  | cons piece pieces ih =>
      have hrest : ∀ t ∈ pieces, isUp t = false := fun t ht => h t (List.mem_cons_of_mem _ ht)
      rcases List.mem_cons.mp hr with rfl | hr
      · exact (prefix_turn (h piece List.mem_cons_self) r).trans
          (ih hrest (mem_stops_self (turn r piece) pieces))
      · exact ih hrest hr

/-- One piece leads out of a folder from the folder itself only. -/
theorem eq_of_turn_leave {here p : Place} {piece : Text} (hbelow : p <+: here)
    (hleave : ¬p <+: turn here piece) : p = here := by
  unfold turn at hleave
  split at hleave
  · exact absurd hbelow hleave
  · split at hleave
    · obtain ⟨rest, rfl⟩ := hbelow
      by_contra hne
      have hrest : rest ≠ [] := fun hnil => hne (by rw [hnil, List.append_nil])
      rw [List.dropLast_append_of_ne_nil hrest] at hleave
      exact hleave (List.prefix_append p _)
    · exact absurd (hbelow.trans (List.prefix_append here _)) hleave

/-- A way that leaves a folder passes it. -/
theorem mem_stops_of_leave {here p r : Place} {pieces : List Text} (hr : r ∈ stops here pieces)
    (hbelow : p <+: r) (hend : ¬p <+: travel here pieces) : p ∈ stops here pieces := by
  induction pieces generalizing here r with
  | nil =>
      rw [stops, List.mem_singleton] at hr
      exact absurd (hr ▸ hbelow) hend
  | cons piece pieces ih =>
      rw [stops, List.mem_cons] at hr ⊢
      rcases hr with rfl | hr
      · by_cases hturn : p <+: turn r piece
        · exact Or.inr (ih (mem_stops_self _ _) hturn hend)
        · exact Or.inl (eq_of_turn_leave hbelow hturn)
      · exact Or.inr (ih hr hbelow hend)

/-- Idle pieces do not change where pieces lead. -/
theorem travel_filter (here : Place) (pieces : List Text) :
    travel here (pieces.filter fun piece => !Path.isIdle piece) = travel here pieces := by
  induction pieces generalizing here with
  | nil =>
      rfl
  | cons piece pieces ih =>
      cases hidle : Path.isIdle piece with
      | true =>
          have hturn : turn here piece = here := by simp [turn, hidle]
          simpa [hidle, hturn] using ih here
      | false =>
          simpa [hidle] using ih (turn here piece)

/-- The names on the way from the place where a path starts are in the path of the working folder or
among the pieces. -/
theorem mem_of_mem_stops_start {d : Disk} {p : Path} {pieces : List Text} {r : Place} {name : Text}
    (hr : r ∈ stops (d.start p) pieces) (hname : name ∈ r) :
    name ∈ Text.pieces '/' (Text.glue '/' d.working) ∨ name ∈ pieces := by
  rcases mem_of_mem_stops hr hname with hstart | hpieces
  · unfold start at hstart
    split at hstart
    · cases hstart
    · rcases mem_of_mem_stops (travel_mem_stops _ _) hstart with hnil | hhome
      · cases hnil
      · exact Or.inl hhome
  · exact Or.inr hpieces

/-- A step that gets through starts in a folder and ends where the piece says. -/
theorem step_eq_ok_iff {d : Disk} {here next : Place} {piece : Text} :
    d.step here piece = .ok next ↔
      d.found here = some .folder ∧ next = turn here piece ∧
        (Path.isIdle piece = true ∨ isUp piece = true ∨
          isTooLong piece = false ∧ d.found (here ++ [piece]) ≠ none) := by
  rw [found_eq_folder_iff, ne_eq (d.found _), found_eq_none_iff]
  unfold step turn
  by_cases hhere : d.lookup here = some .folder
  · simp only [hhere, ne_eq, not_true_eq_false, if_false, true_and]
    cases hidle : Path.isIdle piece with
    | true =>
        simpa using @eq_comm _ here next
    | false =>
        cases hup : isUp piece with
        | true =>
            simpa using @eq_comm _ here.dropLast next
        | false =>
            cases htoo : isTooLong piece with
            | true =>
                simp
            | false =>
                cases d.lookup (here ++ [piece]) with
                | none =>
                    simp
                | some x =>
                    simpa using @eq_comm _ (here ++ [piece]) next
  · simp [hhere]

theorem step_congr {d e : Disk} {here : Place} {piece : Text}
    (hhere : d.found here = e.found here)
    (hnext : d.found (turn here piece) = e.found (turn here piece)) :
    d.step here piece = e.step here piece := by
  have hfolder : d.lookup here = some .folder ↔ e.lookup here = some .folder := by
    rw [← found_eq_folder_iff, hhere, found_eq_folder_iff]
  unfold turn at hnext
  unfold step
  simp only [ne_eq, hfolder]
  split
  · rfl
  · split
    · rfl
    · next hidle =>
      split
      · rfl
      · next hup =>
        rw [if_neg hidle, if_neg hup] at hnext
        split
        · rfl
        · have hnone : d.lookup (here ++ [piece]) = none ↔ e.lookup (here ++ [piece]) = none := by
            rw [← found_eq_none_iff, hnext, found_eq_none_iff]
          cases hd : d.lookup (here ++ [piece]) with
          | none =>
              rw [hnone.mp hd]
          | some x =>
              cases he : e.lookup (here ++ [piece]) with
              | none =>
                  rw [hnone.mpr he] at hd
                  cases hd
              | some y =>
                  rfl

/-- A walk goes the same way on a disk on which the same is found at its stops. -/
theorem walk_congr {d e : Disk} {here : Place} {pieces : List Text}
    (h : ∀ q ∈ stops here pieces, d.found q = e.found q) :
    d.walk here pieces = e.walk here pieces := by
  induction pieces generalizing here with
  | nil =>
      rfl
  | cons piece pieces ih =>
      have hturn : turn here piece ∈ stops here (piece :: pieces) :=
        List.mem_cons_of_mem _ (mem_stops_self _ _)
      have hstep := step_congr (h here (mem_stops_self _ _)) (h _ hturn)
      unfold walk
      rw [hstep]
      cases hnext : e.step here piece with
      | error fault =>
          rfl
      | ok next =>
          obtain ⟨-, rfl, -⟩ := step_eq_ok_iff.mp hnext
          exact ih fun q hq => h q (List.mem_cons_of_mem _ hq)

theorem walk_cons_eq_ok_iff {d : Disk} {here q : Place} {piece : Text} {pieces : List Text} :
    d.walk here (piece :: pieces) = .ok q ↔
      d.step here piece = .ok (turn here piece) ∧ d.walk (turn here piece) pieces = .ok q := by
  rw [walk]
  cases hstep : d.step here piece with
  | error fault =>
      simp
  | ok next =>
      obtain ⟨-, rfl, -⟩ := step_eq_ok_iff.mp hstep
      simp

/-- A walk that gets through ends where the pieces say. -/
theorem eq_travel_of_walk {d : Disk} {here q : Place} {pieces : List Text}
    (h : d.walk here pieces = .ok q) : q = travel here pieces := by
  induction pieces generalizing here with
  | nil =>
      exact (Except.ok.inj h).symm
  | cons piece pieces ih =>
      exact ih (walk_cons_eq_ok_iff.mp h).2

/-- A step that gets through ends at something. -/
theorem found_turn_of_step {d : Disk} {here next : Place} {piece : Text}
    (h : d.step here piece = .ok next) : d.found (turn here piece) ≠ none := by
  obtain ⟨hhere, -, hcases⟩ := step_eq_ok_iff.mp h
  unfold turn
  split
  · simp [hhere]
  · next hidle =>
    split
    · by_cases hnil : here = []
      · simp [hnil]
      · have hne : here.dropLast ≠ here := fun heq => by
          have hlength := congrArg List.length heq
          have hpos := List.length_pos_iff.mpr hnil
          rw [List.length_dropLast] at hlength
          omega
        have hfolder : d.found here.dropLast = some .folder :=
          found_above (List.dropLast_prefix here) hne (by simp [hhere])
        simp [hfolder]
    · next hup =>
      rcases hcases with hc | hc | ⟨-, hc⟩
      · exact absurd hc hidle
      · exact absurd hc hup
      · exact hc

/-- A walk that gets through finds something at all its stops. -/
theorem found_of_mem_stops {d : Disk} {here q r : Place} {pieces : List Text}
    (h : d.walk here pieces = .ok q) (hhere : d.found here ≠ none)
    (hr : r ∈ stops here pieces) : d.found r ≠ none := by
  induction pieces generalizing here with
  | nil =>
      rw [stops, List.mem_singleton] at hr
      exact hr ▸ hhere
  | cons piece pieces ih =>
      obtain ⟨hstep, hrest⟩ := walk_cons_eq_ok_iff.mp h
      rcases List.mem_cons.mp hr with rfl | hr
      · exact hhere
      · exact ih hrest (found_turn_of_step hstep) hr

/-- A walk passes folders only, up to the place where it ends. -/
theorem folder_of_mem_stops {d : Disk} {here q r : Place} {pieces : List Text}
    (h : d.walk here pieces = .ok q) (hr : r ∈ stops here pieces) (hne : r ≠ q) :
    d.found r = some .folder := by
  induction pieces generalizing here with
  | nil =>
      rw [stops, List.mem_singleton] at hr
      exact absurd (hr.trans (Except.ok.inj h)) hne
  | cons piece pieces ih =>
      obtain ⟨hstep, hrest⟩ := walk_cons_eq_ok_iff.mp h
      rcases List.mem_cons.mp hr with rfl | hr
      · exact (step_eq_ok_iff.mp hstep).1
      · exact ih hrest hr

/-- A walk that gets through does so on every disk that agrees about what it has found. -/
theorem walk_of_agree {d e : Disk} {here q : Place} {pieces : List Text}
    (h : d.walk here pieces = .ok q) (hhere : d.found here ≠ none)
    (hagree : ∀ r ∈ stops here pieces, d.found r ≠ none → e.found r = d.found r) :
    e.walk here pieces = .ok q := by
  rw [← h]
  exact walk_congr fun r hr => hagree r hr (found_of_mem_stops h hhere hr)

theorem walk_append_eq_ok_iff {d : Disk} {here r : Place} {ps qs : List Text} :
    d.walk here (ps ++ qs) = .ok r ↔
      ∃ q, d.walk here ps = .ok q ∧ d.walk q qs = .ok r := by
  induction ps generalizing here with
  | nil =>
      simp [walk]
  | cons piece ps ih =>
      rw [List.cons_append, walk_cons_eq_ok_iff, ih]
      constructor
      · rintro ⟨hstep, q, hq, hr⟩
        exact ⟨q, walk_cons_eq_ok_iff.mpr ⟨hstep, hq⟩, hr⟩
      · rintro ⟨q, hq, hr⟩
        obtain ⟨hstep, hq⟩ := walk_cons_eq_ok_iff.mp hq
        exact ⟨hstep, q, hq, hr⟩

theorem walk_singleton_eq_ok_iff {d : Disk} {here q : Place} {piece : Text} :
    d.walk here [piece] = .ok q ↔ d.step here piece = .ok q := by
  rw [walk]
  cases d.step here piece <;> simp [walk]

/-- A walk that ends in a folder starts in one. -/
theorem found_start_of_walk {d : Disk} {here q : Place} {pieces : List Text}
    (h : d.walk here pieces = .ok q) (hq : d.found q = some .folder) :
    d.found here = some .folder := by
  cases pieces with
  | nil =>
      rw [← Except.ok.inj h] at hq
      exact hq
  | cons piece pieces =>
      exact (step_eq_ok_iff.mp (walk_cons_eq_ok_iff.mp h).1).1

/-- Idle pieces do not matter to a walk between folders. -/
theorem walk_filter_iff {d : Disk} {here q : Place} {pieces : List Text}
    (hhere : d.found here = some .folder) (hq : d.found q = some .folder) :
    d.walk here (pieces.filter fun piece => !Path.isIdle piece) = .ok q ↔
      d.walk here pieces = .ok q := by
  induction pieces generalizing here with
  | nil =>
      rfl
  | cons piece pieces ih =>
      cases hidle : Path.isIdle piece with
      | true =>
          have hturn : turn here piece = here := by simp [turn, hidle]
          have hstep : d.step here piece = .ok (turn here piece) :=
            step_eq_ok_iff.mpr ⟨hhere, rfl, Or.inl hidle⟩
          rw [walk_cons_eq_ok_iff, and_iff_right hstep, hturn]
          simpa [hidle] using ih hhere
      | false =>
          simp only [hidle, Bool.not_false, List.filter_cons_of_pos]
          rw [walk_cons_eq_ok_iff, walk_cons_eq_ok_iff]
          refine and_congr_right fun _ => ?_
          by_cases hturn : d.found (turn here piece) = some .folder
          · exact ih hturn
          · exact iff_of_false (fun h => hturn (found_start_of_walk h hq))
              fun h => hturn (found_start_of_walk h hq)

end Disk
end IconAssets
