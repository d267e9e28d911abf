import IconAssets.Disk.Change
import IconAssets.Proofs.Disk.Travel
import IconAssets.Proofs.Path.Moves

/-!
# Paths that lead to folders

`d.Leads p folder` says that a path leads to a folder.  It depends on where the path starts and on
its moves, and only on what is found along them.  A path that ends in a name leads to an object of
that name in the folder that the rest of the path leads to, so whatever is done to it is described
by that folder.

* `leads_iff_walk`: leading to a folder and walking there is the same;
* `Leads.of_agree`: what is found along the moves decides;
* `resolve_child_eq_ok_iff`, `locate_child_eq_ok_iff`: paths that end in a name;
* `makeFolder_child_eq_ok_iff`, `removeFolder_child_eq_ok_iff`, `rename_child_eq_ok_iff`,
  `writeFile_child_eq_ok_iff`: what is done to them.
-/

namespace IconAssets
namespace Disk

/-- A path leads to a folder. -/
structure Leads (d : Disk) (p : Path) (folder : Place) : Prop where
  start : d.found (d.start p) = some .folder
  walk : d.walk (d.start p) p.moves = .ok folder
  found : d.found folder = some .folder

/-- Leading to a folder and walking there is the same. -/
theorem leads_iff_walk {d : Disk} {p : Path} {folder : Place} :
    d.Leads p folder ↔
      d.walk (d.start p) (Text.pieces '/' p.text) = .ok folder ∧
        d.found folder = some .folder := by
  constructor
  · rintro ⟨hstart, hwalk, hfolder⟩
    exact ⟨(walk_filter_iff hstart hfolder).mp hwalk, hfolder⟩
  · rintro ⟨hwalk, hfolder⟩
    have hstart := found_start_of_walk hwalk hfolder
    exact ⟨hstart, (walk_filter_iff hstart hfolder).mpr hwalk, hfolder⟩

namespace Leads

theorem eq_travel {d : Disk} {p : Path} {folder : Place} (h : d.Leads p folder) :
    folder = travel (d.start p) p.moves :=
  eq_travel_of_walk h.walk

theorem unique {d : Disk} {p : Path} {folder other : Place} (h : d.Leads p folder)
    (hother : d.Leads p other) : folder = other :=
  h.eq_travel.trans hother.eq_travel.symm

/-- Paths with the same start and the same moves lead to the same folder. -/
theorem of_moves {d : Disk} {p q : Path} {folder : Place} (h : d.Leads p folder)
    (habsolute : q.isAbsolute = p.isAbsolute) (hmoves : q.moves = p.moves) :
    d.Leads q folder := by
  have hstart : d.start q = d.start p := by rw [Disk.start, Disk.start, habsolute]
  exact ⟨by rw [hstart]; exact h.start, by rw [hstart, hmoves]; exact h.walk, h.found⟩

/-- A path leads to the same folder on a disk on which the same is found along its moves. -/
theorem of_agree {d e : Disk} {p : Path} {folder : Place} (h : d.Leads p folder)
    (hstart : e.start p = d.start p)
    (hagree : ∀ r ∈ stops (d.start p) p.moves, d.found r ≠ none → e.found r = d.found r) :
    e.Leads p folder := by
  have hfolder : folder ∈ stops (d.start p) p.moves := by
    rw [h.eq_travel]
    exact travel_mem_stops _ _
  refine ⟨?_, ?_, ?_⟩
  · rw [hstart, hagree _ (mem_stops_self _ _) (by simp [h.start]), h.start]
  · rw [hstart]
    exact walk_of_agree h.walk (by simp [h.start]) hagree
  · rw [hagree _ hfolder (by simp [h.found]), h.found]

end Leads

/-- The absolute path leads where the path leads. -/
theorem Leads.of_absolute {d : Disk} {p : Path} {folder : Place}
    (h : d.Leads (d.absolute p) folder) : d.Leads p folder := by
  cases hp : p.isAbsolute with
  | true =>
      rwa [absolute, Path.join, if_pos hp] at h
  | false =>
      obtain ⟨-, hwalk, hfolder⟩ := h
      have hstart : d.start (d.absolute p) = [] := by
        rw [Disk.start, absolute, Path.isAbsolute_join hp]
        rfl
      rw [hstart, absolute, Path.moves_join hp, walk_append_eq_ok_iff] at hwalk
      obtain ⟨q, hworking, hwalk⟩ := hwalk
      have hhome : q = d.start p := by
        rw [eq_travel_of_walk hworking, Disk.start, hp, home, Path.moves, Text.pieces_sep_cons,
          Path.filter_moves_cons_idle Path.isIdle_nil, travel_filter]
        rfl
      rw [hhome] at hwalk
      exact ⟨found_start_of_walk hwalk hfolder, hwalk, hfolder⟩

/-- The pieces in front of a name below a path lead where the path leads. -/
theorem leads_iff_front {d : Disk} {p : Path} {front : List Text} {folder : Place}
    (h : Text.pieces '/' p.text = front ∨ Text.pieces '/' p.text = front ++ [[]]) :
    d.Leads p folder ↔
      d.walk (d.start p) front = .ok folder ∧ d.found folder = some .folder := by
  rw [leads_iff_walk]
  rcases h with h | h
  · rw [h]
  · rw [h, walk_append_eq_ok_iff]
    refine and_congr_left fun hfolder => ?_
    constructor
    · rintro ⟨q, hq, hstep⟩
      obtain ⟨-, heq, -⟩ := step_eq_ok_iff.mp (walk_singleton_eq_ok_iff.mp hstep)
      rw [heq]
      exact hq
    · intro hwalk
      refine ⟨folder, hwalk, walk_singleton_eq_ok_iff.mpr ?_⟩
      exact step_eq_ok_iff.mpr ⟨hfolder, rfl, Or.inl rfl⟩

theorem start_child (d : Disk) (p : Path) {name : Text} (h : Path.IsName name) :
    d.start (p.child name) = d.start p := by
  rw [start, start, Path.isAbsolute_child p h]

/-- A step along a name goes into the folder. -/
theorem step_name_eq_ok_iff {d : Disk} {here q : Place} {name : Text} (h : Path.IsName name) :
    d.step here name = .ok q ↔
      d.found here = some .folder ∧ q = here ++ [name] ∧ isTooLong name = false ∧
        d.found q ≠ none := by
  rw [step_eq_ok_iff]
  have hturn : turn here name = here ++ [name] := by simp [turn, h.not_idle, h.not_up]
  rw [hturn, h.not_idle, h.not_up]
  constructor
  · rintro ⟨hhere, rfl, hcases⟩
    simpa [hhere] using hcases
  · rintro ⟨hhere, rfl, hlong, hfound⟩
    exact ⟨hhere, rfl, Or.inr (Or.inr ⟨hlong, hfound⟩)⟩

/-- A path that ends in a name names an object in the folder that the rest leads to. -/
theorem resolve_child_eq_ok_iff {d : Disk} {p : Path} {name : Text} (h : Path.IsName name)
    {q : Place} :
    d.resolve (p.child name) = .ok q ↔
      textFault? (p.child name) = none ∧ isTooLong name = false ∧
        ∃ folder, d.Leads p folder ∧ q = folder ++ [name] ∧ d.found q ≠ none := by
  obtain ⟨front, hfront, hpieces⟩ := Path.pieces_child p h
  unfold resolve
  cases textFault? (p.child name) with
  | some fault =>
      simp
  | none =>
      rw [follow, hpieces, start_child d p h]
      simp only [walk_append_eq_ok_iff, walk_singleton_eq_ok_iff, step_name_eq_ok_iff h,
        leads_iff_front hfront, true_and]
      constructor
      · rintro ⟨folder, hwalk, hfolder, rfl, hlong, hfound⟩
        exact ⟨hlong, folder, ⟨hwalk, hfolder⟩, rfl, hfound⟩
      · rintro ⟨hlong, folder, ⟨hwalk, hfolder⟩, rfl, hfound⟩
        exact ⟨folder, hwalk, hfolder, rfl, hlong, hfound⟩

/-- A path that ends in a name locates an object in the folder that the rest leads to. -/
theorem locate_child_eq_ok_iff {d : Disk} {p : Path} {name : Text} (h : Path.IsName name)
    {s : Spot} :
    d.locate (p.child name) = .ok s ↔
      textFault? (p.child name) = none ∧
        ∃ folder, d.Leads p folder ∧ s = ⟨folder, some name, false⟩ := by
  obtain ⟨front, hfront, hpieces⟩ := Path.pieces_child p h
  unfold locate
  cases textFault? (p.child name) with
  | some fault =>
      simp
  | none =>
      have hne : name ≠ [] := h.ne_nil
      simp only [hpieces, start_child d p h, List.reverse_append, List.reverse_singleton,
        List.singleton_append, List.head?_cons, Option.some_inj, List.dropWhile_cons, hne,
        decide_false, Bool.false_eq_true, if_false, List.reverse_reverse, h.not_idle, h.not_up,
        Bool.or_false, leads_iff_front hfront, true_and]
      cases d.walk (d.start p) front with
      | error fault =>
          simp
      | ok folder =>
          by_cases hfolder : d.lookup folder = some .folder
          · simpa [hfolder, found_eq_folder_iff] using
              @eq_comm _ (Spot.mk folder (some name) false) s
          · simp [hfolder, found_eq_folder_iff]

/-- A folder in a folder that a path leads to is what the path and the name lead to. -/
theorem leads_child_iff {d : Disk} {p : Path} {name : Text} (h : Path.IsName name) {q : Place} :
    d.Leads (p.child name) q ↔
      isTooLong name = false ∧
        ∃ folder, d.Leads p folder ∧ q = folder ++ [name] ∧ d.found q = some .folder := by
  obtain ⟨front, hfront, hpieces⟩ := Path.pieces_child p h
  rw [leads_iff_walk, hpieces, start_child d p h, walk_append_eq_ok_iff]
  simp only [walk_singleton_eq_ok_iff, step_name_eq_ok_iff h, leads_iff_front hfront]
  constructor
  · rintro ⟨⟨folder, hwalk, hfolder, rfl, hlong, -⟩, hfound⟩
    exact ⟨hlong, folder, ⟨hwalk, hfolder⟩, rfl, hfound⟩
  · rintro ⟨hlong, folder, ⟨hwalk, hfolder⟩, rfl, hfound⟩
    exact ⟨⟨folder, hwalk, hfolder, rfl, hlong, by simp [hfound]⟩, hfound⟩

/-- A folder is made by a path that ends in a name if the rest leads to a folder that does not have
the name yet. -/
theorem makeFolder_child_eq_ok_iff {d e : Disk} {p : Path} {name : Text} (h : Path.IsName name) :
    d.makeFolder (p.child name) = .ok e ↔
      textFault? (p.child name) = none ∧ isTooLong name = false ∧
        ∃ folder, d.Leads p folder ∧ d.found (folder ++ [name]) = none ∧
          e = d.put (folder ++ [name]) .folder := by
  constructor
  · intro hmake
    unfold makeFolder at hmake
    split at hmake
    · cases hmake
    · next hspot =>
      obtain ⟨-, folder, -, hs⟩ := (locate_child_eq_ok_iff h).mp hspot
      cases hs
    · next hspot =>
      obtain ⟨htext, folder, hleads, hs⟩ := (locate_child_eq_ok_iff h).mp hspot
      cases hs
      split at hmake
      · cases hmake
      · next hlong =>
        split at hmake
        · cases hmake
        · next hnone =>
          exact ⟨htext, by simpa using hlong, _, hleads, found_eq_none_iff.mpr hnone,
            (Except.ok.inj hmake).symm⟩
  · rintro ⟨htext, hlong, folder, hleads, hnone, rfl⟩
    unfold makeFolder
    rw [(locate_child_eq_ok_iff h).mpr ⟨htext, folder, hleads, rfl⟩]
    simp [hlong, found_eq_none_iff.mp hnone]

theorem locate_of_textFault? {p : Path} {fault : Fault} (h : textFault? p = some fault)
    (d : Disk) : d.locate p = .error fault := by
  unfold locate
  rw [h]

/-- A file that is written has a path that can be followed. -/
theorem text_of_writeFile {d e : Disk} {p : Path} {data : Bytes}
    (h : d.writeFile p data = .ok e) : textFault? p = none := by
  cases htext : textFault? p with
  | none =>
      rfl
  | some fault =>
      unfold writeFile at h
      rw [locate_of_textFault? htext] at h
      cases h

/-- A file is written by a path that ends in a name of nothing if the rest leads to a folder. -/
theorem writeFile_child_eq_ok_iff {d e : Disk} {p : Path} {name : Text} {data : Bytes}
    {folder : Place} (h : Path.IsName name) (hleads : d.Leads p folder)
    (hnone : d.found (folder ++ [name]) = none) :
    d.writeFile (p.child name) data = .ok e ↔
      textFault? (p.child name) = none ∧ isTooLong name = false ∧
        e = d.put (folder ++ [name]) (.file data false) := by
  constructor
  · intro hwrite
    unfold writeFile at hwrite
    split at hwrite
    · cases hwrite
    · cases hwrite
    · cases hwrite
    · next hspot =>
      obtain ⟨htext, other, hother, hs⟩ := (locate_child_eq_ok_iff h).mp hspot
      cases hs
      rw [hother.unique hleads, found_eq_none_iff.mp hnone] at hwrite
      split at hwrite
      · cases hwrite
      · next hlong =>
        exact ⟨htext, by simpa using hlong, (Except.ok.inj hwrite).symm⟩
  · rintro ⟨htext, hlong, rfl⟩
    unfold writeFile
    rw [(locate_child_eq_ok_iff h).mpr ⟨htext, folder, hleads, rfl⟩]
    simp [hlong, found_eq_none_iff.mp hnone]

/-- A folder is removed by a path that ends in its name. -/
theorem removeFolder_child_eq_ok_iff {d e : Disk} {p : Path} {name : Text}
    (h : Path.IsName name) :
    d.removeFolder (p.child name) = .ok e ↔
      textFault? (p.child name) = none ∧ isTooLong name = false ∧
        ∃ folder, d.Leads p folder ∧ d.found (folder ++ [name]) = some .folder ∧
          e = d.clear (folder ++ [name]) := by
  constructor
  · intro hremove
    unfold removeFolder at hremove
    split at hremove
    · cases hremove
    · next hplace =>
      obtain ⟨htext, hlong, folder, hleads, rfl, -⟩ := (resolve_child_eq_ok_iff h).mp hplace
      split at hremove
      · next hfolder =>
        exact ⟨htext, hlong, folder, hleads, found_eq_folder_iff.mpr hfolder,
          (Except.ok.inj hremove).symm⟩
      · cases hremove
      · cases hremove
  · rintro ⟨htext, hlong, folder, hleads, hfolder, rfl⟩
    unfold removeFolder
    rw [(resolve_child_eq_ok_iff h).mpr
      ⟨htext, hlong, folder, hleads, rfl, by simp [hfolder]⟩]
    simp [found_eq_folder_iff.mp hfolder]

/-- An object is moved by paths that end in its old and new name. -/
theorem rename_child_eq_ok_iff {d e : Disk} {p q : Path} {name new : Text}
    (hname : Path.IsName name) (hnew : Path.IsName new) :
    d.rename (p.child name) (q.child new) = .ok e ↔
      textFault? (p.child name) = none ∧ isTooLong name = false ∧
        textFault? (q.child new) = none ∧ isTooLong new = false ∧
          ∃ source target, d.Leads p source ∧ d.Leads q target ∧
            d.found (source ++ [name]) ≠ none ∧ d.found (target ++ [new]) = none ∧
              e = d.move (source ++ [name]) (target ++ [new]) := by
  constructor
  · intro hrename
    unfold rename at hrename
    split at hrename
    · cases hrename
    · next hplace =>
      obtain ⟨htext, hlong, source, hsource, rfl, hfound⟩ :=
        (resolve_child_eq_ok_iff hname).mp hplace
      split at hrename
      · cases hrename
      · next hspot =>
        obtain ⟨-, target, -, hs⟩ := (locate_child_eq_ok_iff hnew).mp hspot
        cases hs
      · next hspot =>
        obtain ⟨htext', target, htarget, hs⟩ := (locate_child_eq_ok_iff hnew).mp hspot
        cases hs
        split at hrename
        · cases hrename
        · next hlong' =>
          split at hrename
          · cases hrename
          · next hnone =>
            exact ⟨htext, hlong, htext', by simpa using hlong', source, _, hsource, htarget,
              hfound, found_eq_none_iff.mpr hnone, (Except.ok.inj hrename).symm⟩
  · rintro ⟨htext, hlong, htext', hlong', source, target, hsource, htarget, hfound, hnone, rfl⟩
    unfold rename
    rw [(resolve_child_eq_ok_iff hname).mpr ⟨htext, hlong, source, hsource, rfl, hfound⟩,
      (locate_child_eq_ok_iff hnew).mpr ⟨htext', target, htarget, rfl⟩]
    simp [hlong', found_eq_none_iff.mp hnone]

end Disk
end IconAssets
