import IconAssets.Proofs.Disk.Leads

/-!
# Reading from a disk

What a path names, and what is read by it, depends on what is found at the stops of the path.  Where
the same is found on another disk, the same is read there.

* `readFile_eq_foundAt`: a file is read by what the path names;
* `foundAt_congr`, `readFile_congr`: reading on another disk;
* `readFile_of_agree`: what could be read is still read where nothing found has changed;
* `foundAt_child`: what a path that ends in a name names.
-/

namespace IconAssets
namespace Disk

/-- The places that are looked at when a path is followed. -/
def trail (d : Disk) (p : Path) : List Place := stops (d.start p) (Text.pieces '/' p.text)

/-- What a path names. -/
def foundAt (d : Disk) (p : Path) : Option Object :=
  match d.resolve p with
  | .error _ => none
  | .ok place => d.found place

/-- A path that names something can be followed. -/
theorem textFault?_of_resolve {d : Disk} {p : Path} {q : Place} (h : d.resolve p = .ok q) :
    textFault? p = none := by
  unfold resolve at h
  split at h
  · cases h
  · assumption

/-- A path that is followed to its end starts in a folder. -/
theorem found_start_of_resolve {d : Disk} {p : Path} {q : Place} (h : d.resolve p = .ok q) :
    d.walk (d.start p) (Text.pieces '/' p.text) = .ok q ∧ d.found (d.start p) = some .folder := by
  unfold resolve follow at h
  split at h
  · cases h
  · obtain ⟨piece, pieces, hpieces⟩ := List.exists_cons_of_ne_nil (Text.pieces_ne_nil '/' p.text)
    refine ⟨h, ?_⟩
    rw [hpieces] at h
    exact (step_eq_ok_iff.mp (walk_cons_eq_ok_iff.mp h).1).1

/-- The place that a path names is a stop of the path. -/
theorem mem_trail_of_resolve {d : Disk} {p : Path} {q : Place} (h : d.resolve p = .ok q) :
    q ∈ d.trail p := by
  rw [eq_travel_of_walk (found_start_of_resolve h).1]
  exact travel_mem_stops _ _

/-- A path that names something finds something at all its stops. -/
theorem found_of_mem_trail {d : Disk} {p : Path} {q r : Place} (h : d.resolve p = .ok q)
    (hr : r ∈ d.trail p) : d.found r ≠ none := by
  obtain ⟨hwalk, hstart⟩ := found_start_of_resolve h
  exact found_of_mem_stops hwalk (by simp [hstart]) hr

theorem resolve_congr {d e : Disk} {p : Path} (hstart : e.start p = d.start p)
    (h : ∀ r ∈ d.trail p, d.found r = e.found r) : d.resolve p = e.resolve p := by
  unfold resolve follow
  rw [hstart, walk_congr h]

/-- A path still names its place where nothing found at its stops has changed. -/
theorem resolve_of_agree {d e : Disk} {p : Path} {q : Place} (h : d.resolve p = .ok q)
    (hstart : e.start p = d.start p)
    (hagree : ∀ r ∈ d.trail p, d.found r ≠ none → e.found r = d.found r) :
    e.resolve p = .ok q := by
  rw [← h]
  exact (resolve_congr hstart fun r hr =>
    (hagree r hr (found_of_mem_trail h hr)).symm).symm

theorem foundAt_congr {d e : Disk} {p : Path} (hstart : e.start p = d.start p)
    (h : ∀ r ∈ d.trail p, d.found r = e.found r) : d.foundAt p = e.foundAt p := by
  unfold foundAt
  rw [← resolve_congr hstart h]
  cases hq : d.resolve p with
  | error fault =>
      rfl
  | ok q =>
      exact h q (mem_trail_of_resolve hq)

theorem hasObject_eq_isSome (d : Disk) (p : Path) : d.hasObject p = (d.foundAt p).isSome := by
  unfold hasObject find? foundAt
  cases d.resolve p <;> simp [found]

theorem isFolder_iff {d : Disk} {p : Path} :
    d.isFolder p = true ↔ d.foundAt p = some .folder := by
  unfold isFolder find? foundAt
  cases d.resolve p with
  | error fault =>
      simp
  | ok q =>
      simpa using found_eq_folder_iff.symm

theorem isFile_iff {d : Disk} {p : Path} :
    d.isFile p = true ↔ ∃ data runnable, d.foundAt p = some (.file data runnable) := by
  unfold isFile find? foundAt
  cases d.resolve p with
  | error fault =>
      simp
  | ok q =>
      simp only [found_eq_file_iff]
      cases d.lookup q with
      | none =>
          simp
      | some x =>
          cases x <;> simp

theorem exists_readFile_of_isFile {d : Disk} {p : Path} (h : d.isFile p = true) :
    ∃ data, d.readFile p = .ok data := by
  unfold isFile find? at h
  unfold readFile
  cases hq : d.resolve p with
  | error e =>
      simp [hq] at h
  | ok q =>
      rw [hq] at h
      dsimp only at h ⊢
      cases hx : d.lookup q with
      | none =>
          simp [hx] at h
      | some x =>
          cases x with
          | file data runnable =>
              exact ⟨data, rfl⟩
          | folder =>
              simp [hx] at h
          | device x =>
              simp [hx] at h

/-- A file is read by what the path names. -/
theorem readFile_eq_foundAt (d : Disk) (p : Path) :
    d.readFile p =
      match d.resolve p with
      | .error e => .error e
      | .ok _ =>
        match d.foundAt p with
        | some (.file data _) => .ok data
        | some (.device .terminal) => .error .noDevice
        | some (.device x) => .ok x.data
        | some .folder => .error .isFolder
        | none => .error .missing := by
  unfold readFile foundAt
  cases d.resolve p with
  | error fault =>
      rfl
  | ok q =>
      unfold found
      cases hq : d.lookup q with
      | none =>
          simp only [hq, Option.map_none]
      | some x =>
          cases x with
          | folder =>
              simp only [hq, Option.map_some, Object.settled]
          | file data runnable =>
              simp only [hq, Option.map_some, Object.settled]
          | device x =>
              simp only [hq, Option.map_some, Object.settled]
              cases x <;> rfl

/-- The same is read on a disk on which the same is found at the stops of the path. -/
theorem readFile_congr {d e : Disk} {p : Path} (hstart : e.start p = d.start p)
    (h : ∀ r ∈ d.trail p, d.found r = e.found r) : d.readFile p = e.readFile p := by
  rw [readFile_eq_foundAt, readFile_eq_foundAt, resolve_congr hstart h, foundAt_congr hstart h]

/-- A file that is read is named by its path. -/
theorem resolve_of_readFile {d : Disk} {p : Path} {data : Bytes} (h : d.readFile p = .ok data) :
    ∃ q, d.resolve p = .ok q := by
  unfold readFile at h
  split at h
  · cases h
  · next q hq =>
    exact ⟨q, hq⟩

/-- What could be read is still read where nothing found at the stops of the path has changed. -/
theorem readFile_of_agree {d e : Disk} {p : Path} {data : Bytes} (h : d.readFile p = .ok data)
    (hstart : e.start p = d.start p)
    (hagree : ∀ r ∈ d.trail p, d.found r ≠ none → e.found r = d.found r) :
    e.readFile p = .ok data := by
  obtain ⟨q, hq⟩ := resolve_of_readFile h
  rw [← h]
  exact (readFile_congr hstart fun r hr => (hagree r hr (found_of_mem_trail hq hr)).symm).symm

/-- A path that ends in a name names what is found under the name in the folder that the rest
leads to. -/
theorem foundAt_child {d : Disk} {p : Path} {name : Text} {folder : Place}
    (h : Path.IsName name) (hleads : d.Leads p folder)
    (htext : textFault? (p.child name) = none) (hlong : isTooLong name = false) :
    d.foundAt (p.child name) = d.found (folder ++ [name]) := by
  unfold foundAt
  cases hq : d.resolve (p.child name) with
  | error fault =>
      by_contra hne
      have hfound : d.found (folder ++ [name]) ≠ none := fun hnone => hne hnone.symm
      rw [(resolve_child_eq_ok_iff h).mpr ⟨htext, hlong, folder, hleads, rfl, hfound⟩] at hq
      cases hq
  | ok q =>
      obtain ⟨-, -, other, hother, rfl, -⟩ := (resolve_child_eq_ok_iff h).mp hq
      rw [hother.unique hleads]

/-- A path that ends in a name and names something is short enough, and the rest leads to a
folder. -/
theorem foundAt_child_eq_some {d : Disk} {p : Path} {name : Text} {x : Object}
    (h : Path.IsName name) (hx : d.foundAt (p.child name) = some x) :
    textFault? (p.child name) = none ∧ isTooLong name = false ∧
      ∃ folder, d.Leads p folder ∧ d.found (folder ++ [name]) = some x := by
  unfold foundAt at hx
  split at hx
  · cases hx
  · next q hq =>
    obtain ⟨htext, hlong, folder, hleads, rfl, -⟩ := (resolve_child_eq_ok_iff h).mp hq
    exact ⟨htext, hlong, folder, hleads, hx⟩

/-- A file in a folder that a path leads to is read unless its path is too long. -/
theorem readFile_child_eq_ok {d : Disk} {p : Path} {name : Text} {folder : Place} {data : Bytes}
    {runnable : Bool} (h : Path.IsName name) (hleads : d.Leads p folder)
    (hlong : isTooLong name = false)
    (hfile : d.found (folder ++ [name]) = some (.file data runnable))
    (htext : textFault? (p.child name) = none) : d.readFile (p.child name) = .ok data := by
  have hresolve := (resolve_child_eq_ok_iff h).mpr
    ⟨htext, hlong, folder, hleads, rfl, by simp [hfile]⟩
  rw [readFile_eq_foundAt, foundAt_child h hleads htext hlong, hresolve, hfile]

/-- Whether a path names a file in the folder that the rest leads to depends on its length only. -/
theorem isFile_child_iff {d : Disk} {p : Path} {name : Text} {folder : Place} {data : Bytes}
    {runnable : Bool} (h : Path.IsName name) (hleads : d.Leads p folder)
    (hlong : isTooLong name = false)
    (hfile : d.found (folder ++ [name]) = some (.file data runnable)) :
    d.isFile (p.child name) = true ↔ textFault? (p.child name) = none := by
  rw [isFile_iff]
  constructor
  · rintro ⟨data, runnable, hfound⟩
    exact (foundAt_child_eq_some h hfound).1
  · intro htext
    exact ⟨data, runnable, by rw [foundAt_child h hleads htext hlong, hfile]⟩

end Disk
end IconAssets
