import IconAssets.Proofs.Catalog.Swap
import IconAssets.Proofs.Disk.Apart

/-!
# What a swap leaves behind

A staging directory is beside the place of the catalog.  What a swap does is decided by what is at
this place and at the place where the former catalog is set aside, as long as no way leads through
them: a former catalog that has been left aside and is no directory cannot be removed, and in all
other cases the swap succeeds.

* `Beside`, `Ready`: staging directories that can be swapped into place;
* `Exchanged`: what is found afterwards;
* `swapIntoPlace_new`: no catalog before;
* `swapIntoPlace_stale`: a former catalog in the way;
* `swapIntoPlace_replace`: a catalog that is replaced.
-/

namespace IconAssets
namespace Catalog

open Run

/-- A place is at or below one of some names in a folder. -/
def Among (folder : Place) (names : List Text) (q : Place) : Prop :=
  ∃ name ∈ names, folder ++ [name] <+: q

theorem Among.of_subset {folder : Place} {names more : List Text} {q : Place}
    (h : Among folder names q) (hnames : names ⊆ more) : Among folder more q := by
  obtain ⟨name, hname, hbelow⟩ := h
  exact ⟨name, hnames hname, hbelow⟩

section

variable {d : Disk} {folder : Place} {names : List Text} {name new : Text}

/-- Clearing a name takes away what is there, and nothing under other names. -/
theorem found_clear_sibling (d : Disk) (folder : Place) (name other : Text) (q : Place) :
    (d.clear (folder ++ [name])).found (folder ++ [other] ++ q) =
      if other = name then none else d.found (folder ++ [other] ++ q) := by
  rw [Disk.found_clear d (by simp)]
  by_cases h : other = name
  · subst h
    rw [if_pos (List.prefix_append _ q), if_pos rfl]
  · rw [if_neg (not_prefix_sibling (Ne.symm h)), if_neg h]

theorem agreeOff_clear_sibling (d : Disk) (folder : Place) (h : name ∈ names) :
    Disk.AgreeOff d (Among folder names) d (d.clear (folder ++ [name])) :=
  (Disk.agreeOff_clear d _).mono fun _ hq => ⟨name, h, hq⟩

/-- Moving what is under a name to a free name leaves the other names alone. -/
theorem found_move_sibling (hfolder : d.found folder = some .folder)
    (hname : d.found (folder ++ [name]) ≠ none) (hnew : d.found (folder ++ [new]) = none)
    (other : Text) (q : Place) :
    (d.move (folder ++ [name]) (folder ++ [new])).found (folder ++ [other] ++ q) =
      if other = new then d.found (folder ++ [name] ++ q)
      else if other = name then none else d.found (folder ++ [other] ++ q) := by
  have hne : name ≠ new := by
    rintro rfl
    exact hname hnew
  rw [Disk.found_move hname hfolder (not_prefix_beside folder hne) hnew]
  by_cases hto : other = new
  · subst hto
    rw [if_pos (List.prefix_append _ q), if_pos rfl, List.drop_left]
  · rw [if_neg (not_prefix_sibling (Ne.symm hto)), if_neg hto]
    by_cases hof : other = name
    · subst hof
      rw [if_pos (List.prefix_append _ q), if_pos rfl]
    · rw [if_neg (not_prefix_sibling (Ne.symm hof)), if_neg hof]

theorem agreeOff_move_sibling (hfolder : d.found folder = some .folder)
    (hname : d.found (folder ++ [name]) ≠ none) (hnew : d.found (folder ++ [new]) = none)
    (h : name ∈ names) (h' : new ∈ names) :
    Disk.AgreeOff d (Among folder names) d (d.move (folder ++ [name]) (folder ++ [new])) := by
  have hne : name ≠ new := by
    rintro rfl
    exact hname hnew
  refine ⟨rfl, rfl, fun q hq => ?_⟩
  rw [Disk.found_move hname hfolder (not_prefix_beside folder hne) hnew,
    if_neg fun hbelow => hq ⟨new, h', hbelow⟩, if_neg fun hbelow => hq ⟨name, h, hbelow⟩]

end

/-- A staging directory is to be swapped into the place of the catalog beside it. -/
structure Beside (d : Disk) (output base : Path) (folder : Place) (staged : Text) : Prop where
  isName : Path.IsName staged
  ne_directory : staged ≠ directoryName
  ne_previous : staged ≠ previousName
  short : Disk.isTooLong staged = false
  leadsOutput : d.Leads output folder
  leadsBase : d.Leads base folder
  textStaged : Disk.textFault? (base.child staged) = none
  textCatalog : Disk.textFault? (output.child directoryName) = none
  textPrevious : Disk.textFault? (previousPath (output.child directoryName)) = none

namespace Beside

variable {d e : Disk} {output base : Path} {folder : Place} {staged : Text}

theorem hasObject_catalog (h : Beside d output base folder staged) :
    d.hasObject (output.child directoryName) = (d.found (folder ++ [directoryName])).isSome := by
  rw [Disk.hasObject_eq_isSome,
    Disk.foundAt_child isName_directoryName h.leadsOutput h.textCatalog (by decide)]

/-- The place beside the catalog, by its path. -/
theorem exists_beside (h : Beside d output base folder staged) :
    ∃ beside : Path, previousPath (output.child directoryName) = beside.child previousName ∧
      Disk.textFault? (beside.child previousName) = none ∧ d.Leads beside folder := by
  obtain ⟨beside, hpath, habsolute, hmoves⟩ :=
    exists_previousPath_eq output isName_directoryName
  exact ⟨beside, hpath, hpath ▸ h.textPrevious, h.leadsOutput.of_moves habsolute hmoves⟩

theorem hasObject_previous (h : Beside d output base folder staged) :
    d.hasObject (previousPath (output.child directoryName)) =
      (d.found (folder ++ [previousName])).isSome := by
  obtain ⟨beside, hpath, htext, hbeside⟩ := h.exists_beside
  rw [hpath, Disk.hasObject_eq_isSome,
    Disk.foundAt_child isName_previousName hbeside htext (by decide)]

theorem removeFolder_previous (h : Beside d output base folder staged)
    (hfolder : d.found (folder ++ [previousName]) = some .folder) :
    d.removeFolder (previousPath (output.child directoryName)) =
      .ok (d.clear (folder ++ [previousName])) := by
  obtain ⟨beside, hpath, htext, hbeside⟩ := h.exists_beside
  rw [hpath]
  exact (Disk.removeFolder_child_eq_ok_iff isName_previousName).mpr
    ⟨htext, by decide, folder, hbeside, hfolder, rfl⟩

/-- What is no directory cannot be removed as one. -/
theorem removeFolder_previous_eq_error (h : Beside d output base folder staged) {x : Object}
    (hx : d.found (folder ++ [previousName]) = some x) (hfolder : x ≠ .folder) :
    d.removeFolder (previousPath (output.child directoryName)) = .error .notFolder := by
  obtain ⟨beside, hpath, htext, hbeside⟩ := h.exists_beside
  have hresolve := (Disk.resolve_child_eq_ok_iff isName_previousName).mpr
    ⟨htext, by decide, folder, hbeside, rfl, by simp [hx]⟩
  rw [hpath]
  unfold Disk.removeFolder
  rw [hresolve]
  dsimp only
  cases hlookup : d.lookup (folder ++ [previousName]) with
  | none =>
      rw [Disk.found_eq_none_iff.mpr hlookup] at hx
      cases hx
  | some y =>
      cases y with
      | folder =>
          rw [Disk.found_eq_folder_iff.mpr hlookup] at hx
          exact absurd (Option.some_inj.mp hx).symm hfolder
      | file data runnable =>
          rfl
      | device y =>
          rfl

theorem rename_catalog (h : Beside d output base folder staged)
    (hcatalog : d.found (folder ++ [directoryName]) ≠ none)
    (hprevious : d.found (folder ++ [previousName]) = none) :
    d.rename (output.child directoryName) (previousPath (output.child directoryName)) =
      .ok (d.move (folder ++ [directoryName]) (folder ++ [previousName])) := by
  obtain ⟨beside, hpath, htext, hbeside⟩ := h.exists_beside
  rw [hpath]
  exact (Disk.rename_child_eq_ok_iff isName_directoryName isName_previousName).mpr
    ⟨h.textCatalog, by decide, htext, by decide, folder, folder, h.leadsOutput, hbeside,
      hcatalog, hprevious, rfl⟩

theorem rename_staged (h : Beside d output base folder staged)
    (hstaged : d.found (folder ++ [staged]) ≠ none)
    (hcatalog : d.found (folder ++ [directoryName]) = none) :
    d.rename (base.child staged) (output.child directoryName) =
      .ok (d.move (folder ++ [staged]) (folder ++ [directoryName])) :=
  (Disk.rename_child_eq_ok_iff h.isName isName_directoryName).mpr
    ⟨h.textStaged, h.short, h.textCatalog, by decide, folder, folder, h.leadsBase,
      h.leadsOutput, hstaged, hcatalog, rfl⟩

end Beside

/-- No way leads through a place of the swap. -/
structure Ready (d : Disk) (output base : Path) (folder : Place) (staged : Text) : Prop
    extends Beside d output base folder staged where
  avoidsOutput : d.Avoids (Among folder [staged, directoryName, previousName]) output
  avoidsBase : d.Avoids (Among folder [staged, directoryName, previousName]) base

theorem Ready.of_agree {d e : Disk} {output base : Path} {folder : Place} {staged : Text}
    (h : Ready d output base folder staged)
    (hagree : Disk.AgreeOff d (Among folder [staged, directoryName, previousName]) d e) :
    Ready e output base folder staged :=
  { h with
    leadsOutput := hagree.leads h.avoidsOutput h.leadsOutput
    leadsBase := hagree.leads h.avoidsBase h.leadsBase
    avoidsOutput := h.avoidsOutput.of_working hagree.right
    avoidsBase := h.avoidsBase.of_working hagree.right }

/-- What is found after a swap: the staged directory at the place of the catalog, something at the
place beside it, and all else as before. -/
structure Exchanged (d e : Disk) (folder : Place) (staged : Text)
    (aside : Place → Option Object) : Prop where
  working : e.working = d.working
  catalog : ∀ q, e.found (folder ++ [directoryName] ++ q) = d.found (folder ++ [staged] ++ q)
  gone : ∀ q, e.found (folder ++ [staged] ++ q) = none
  previous : ∀ q, e.found (folder ++ [previousName] ++ q) = aside q
  other : ∀ q, ¬Among folder [staged, directoryName, previousName] q → e.found q = d.found q

namespace Exchanged

variable {d e f : Disk} {folder : Place} {staged : Text} {aside : Place → Option Object}

theorem of_found (h : Exchanged d e folder staged aside) (hworking : f.working = e.working)
    (hfound : f.found = e.found) : Exchanged d f folder staged aside :=
  ⟨hworking.trans h.working, by rw [hfound]; exact h.catalog, by rw [hfound]; exact h.gone,
    by rw [hfound]; exact h.previous, by rw [hfound]; exact h.other⟩

theorem agree (h : Exchanged d e folder staged aside) :
    Disk.AgreeOff d (Among folder [staged, directoryName, previousName]) d e :=
  ⟨rfl, h.working, fun q hq => (h.other q hq).symm⟩

/-- What is beside the catalog is removed after the swap. -/
theorem clear_after (h : Exchanged d e folder staged aside) (hstaged : staged ≠ previousName) :
    Exchanged d (e.clear (folder ++ [previousName])) folder staged fun _ => none := by
  refine ⟨h.working, fun q => ?_, fun q => ?_, fun q => ?_, fun q hq => ?_⟩
  · rw [found_clear_sibling, if_neg (by decide), h.catalog]
  · rw [found_clear_sibling, if_neg hstaged, h.gone]
  · rw [found_clear_sibling, if_pos rfl]
  · rw [← h.other q hq]
    exact ((agreeOff_clear_sibling e folder (by simp)).found q hq).symm

/-- The two places of the catalog may have been changed before the staged one is moved. -/
theorem of_agree_before (h : Exchanged e f folder staged aside)
    (hagree : Disk.AgreeOff d (Among folder [directoryName, previousName]) d e)
    (hdirectory : staged ≠ directoryName) (hprevious : staged ≠ previousName) :
    Exchanged d f folder staged aside := by
  have hstaged : ∀ q, ¬Among folder [directoryName, previousName] (folder ++ [staged] ++ q) := by
    rintro q ⟨name, hname, hbelow⟩
    refine not_prefix_sibling ?_ hbelow
    rcases List.mem_pair.mp hname with rfl | rfl
    · exact hdirectory.symm
    · exact hprevious.symm
  refine ⟨h.working.trans hagree.right, fun q => ?_, h.gone, h.previous, fun q hq => ?_⟩
  · rw [h.catalog, hagree.found _ (hstaged q)]
  · rw [h.other q hq, hagree.found q fun hamong => hq (hamong.of_subset (by simp))]

end Exchanged

section

variable {d : Disk} {w : World} {output base : Path} {folder : Place} {staged : Text}

/-- The staged catalog is moved to the free place of the catalog. -/
theorem exchanged_move (h : Beside d output base folder staged)
    (hstaged : d.found (folder ++ [staged]) ≠ none)
    (hcatalog : d.found (folder ++ [directoryName]) = none) :
    Exchanged d (d.move (folder ++ [staged]) (folder ++ [directoryName])) folder staged fun q =>
      d.found (folder ++ [previousName] ++ q) := by
  have hfolder := h.leadsOutput.found
  have hfound := found_move_sibling hfolder hstaged hcatalog
  refine ⟨rfl, fun q => ?_, fun q => ?_, fun q => ?_, fun q hq => ?_⟩
  · rw [hfound, if_pos rfl]
  · rw [hfound, if_neg h.ne_directory, if_pos rfl]
  · rw [hfound, if_neg (by decide), if_neg h.ne_previous.symm]
  · exact ((agreeOff_move_sibling hfolder hstaged hcatalog (by simp) (by simp)).found q hq).symm

/-- Where no catalog was, the staged one is moved to its place. -/
theorem swapIntoPlace_new (h : Beside w.disk output base folder staged)
    (hstaged : w.disk.found (folder ++ [staged]) ≠ none)
    (hcatalog : w.disk.found (folder ++ [directoryName]) = none) :
    ∃ v, swapIntoPlace (base.child staged) (output.child directoryName) w = .ok () v ∧
      Exchanged w.disk v.disk folder staged fun q =>
        w.disk.found (folder ++ [previousName] ++ q) := by
  refine ⟨_, ?_, (exchanged_move h hstaged hcatalog).of_found (World.working_withDisk w _)
    (World.found_withDisk w _)⟩
  rw [swapIntoPlace_apply, h.hasObject_catalog, hcatalog]
  exact change_eq_ok_iff.mpr ⟨_, h.rename_staged hstaged hcatalog, rfl⟩

/-- A former catalog that has been left aside and is no directory is in the way. -/
theorem swapIntoPlace_stale (h : Beside w.disk output base folder staged)
    (hcatalog : w.disk.found (folder ++ [directoryName]) ≠ none) {x : Object}
    (hx : w.disk.found (folder ++ [previousName]) = some x) (hfolder : x ≠ .folder) :
    swapIntoPlace (base.child staged) (output.child directoryName) w =
      .error ⟨[.removingStale (previousPath (output.child directoryName))], .disk .notFolder⟩
        w := by
  rw [swapIntoPlace_apply, h.hasObject_catalog, if_pos (Option.isSome_iff_ne_none.mpr hcatalog),
    h.hasObject_previous, hx]
  exact bind_eq_error_iff.mpr (Or.inl (change_eq_error_iff.mpr
    ⟨.notFolder, h.removeFolder_previous_eq_error hx hfolder, rfl, rfl⟩))

/-- A catalog is replaced if nothing is beside it.  The former one is removed then, unless it is
no directory. -/
theorem replaceCatalog_ok (h : Ready w.disk output base folder staged)
    (hstaged : w.disk.found (folder ++ [staged]) ≠ none)
    (hcatalog : w.disk.found (folder ++ [directoryName]) ≠ none)
    (hprevious : w.disk.found (folder ++ [previousName]) = none) :
    ∃ v, replaceCatalog (base.child staged) (output.child directoryName) w = .ok () v ∧
      Exchanged w.disk v.disk folder staged fun q =>
        if w.disk.found (folder ++ [directoryName]) = some .folder then none
        else w.disk.found (folder ++ [directoryName] ++ q) := by
  have hfolder := h.leadsOutput.found
  -- The catalog is set aside.
  obtain ⟨v, hv, hworking, hfound⟩ : ∃ v, change (.settingAside (output.child directoryName))
      (fun d => d.rename (output.child directoryName)
        (previousPath (output.child directoryName))) w = .ok () v ∧
        v.disk.working = w.disk.working ∧
          v.disk.found =
            (w.disk.move (folder ++ [directoryName]) (folder ++ [previousName])).found :=
    ⟨_, change_eq_ok_iff.mpr ⟨_, h.rename_catalog hcatalog hprevious, rfl⟩,
      World.working_withDisk w _, World.found_withDisk w _⟩
  have hagree : ∀ names, directoryName ∈ names → previousName ∈ names →
      Disk.AgreeOff w.disk (Among folder names) w.disk v.disk := fun names hdirectory haside =>
    (agreeOff_move_sibling hfolder hcatalog hprevious hdirectory haside).of_found hworking hfound
  have hset := found_move_sibling hfolder hcatalog hprevious
  rw [← hfound] at hset
  -- The staged one takes its place.
  have hready := h.of_agree (hagree _ (by simp) (by simp))
  have hstaged' : v.disk.found (folder ++ [staged]) ≠ none := by
    have heq := hset staged []
    rw [if_neg h.ne_previous, if_neg h.ne_directory, List.append_nil] at heq
    rwa [heq]
  have hfree : v.disk.found (folder ++ [directoryName]) = none := by
    have heq := hset directoryName []
    rwa [if_neg (by decide), if_pos rfl, List.append_nil] at heq
  obtain ⟨u, hu, hexchanged⟩ : ∃ u, change (.moving (output.child directoryName))
      (fun d => d.rename (base.child staged) (output.child directoryName)) v = .ok () u ∧
        Exchanged w.disk u.disk folder staged fun q =>
          w.disk.found (folder ++ [directoryName] ++ q) := by
    refine ⟨_, change_eq_ok_iff.mpr ⟨_, hready.rename_staged hstaged' hfree, rfl⟩, ?_⟩
    have hmoved := ((exchanged_move hready.toBeside hstaged' hfree).of_agree_before
      (hagree _ (by simp) (by simp)) h.ne_directory h.ne_previous).of_found
      (World.working_withDisk v _) (World.found_withDisk v _)
    simpa only [hset, if_pos] using hmoved
  -- The former one is removed if it is a directory.
  have hlast := h.of_agree hexchanged.agree
  have hbeside := hexchanged.previous []
  rw [List.append_nil, List.append_nil] at hbeside
  unfold replaceCatalog
  rw [bind_of_ok hv, bind_of_ok (onFailure_eq_ok_iff.mpr hu)]
  unfold removePrevious
  rw [disk_bind]
  by_cases hdirectory : w.disk.found (folder ++ [directoryName]) = some .folder
  · rw [hlast.removeFolder_previous (hbeside.trans hdirectory)]
    refine ⟨_, rfl, ?_⟩
    simpa only [hdirectory, if_pos] using hexchanged.clear_after h.ne_previous
  · obtain ⟨x, hx⟩ := Option.ne_none_iff_exists'.mp hcatalog
    rw [hlast.removeFolder_previous_eq_error (hbeside.trans hx) fun hfolder =>
      hdirectory (hfolder ▸ hx)]
    refine ⟨_, rfl, ?_⟩
    simpa only [hdirectory, if_false] using hexchanged

/-- A catalog is replaced if nothing is beside it, or only a directory, which is removed first. -/
theorem swapIntoPlace_replace (h : Ready w.disk output base folder staged)
    (hstaged : w.disk.found (folder ++ [staged]) ≠ none)
    (hcatalog : w.disk.found (folder ++ [directoryName]) ≠ none)
    (hprevious : w.disk.found (folder ++ [previousName]) = none ∨
      w.disk.found (folder ++ [previousName]) = some .folder) :
    ∃ v, swapIntoPlace (base.child staged) (output.child directoryName) w = .ok () v ∧
      Exchanged w.disk v.disk folder staged fun q =>
        if w.disk.found (folder ++ [directoryName]) = some .folder then none
        else w.disk.found (folder ++ [directoryName] ++ q) := by
  rw [swapIntoPlace_apply, h.hasObject_catalog, if_pos (Option.isSome_iff_ne_none.mpr hcatalog),
    h.hasObject_previous]
  rcases hprevious with hnone | hfolder
  · rw [hnone]
    exact replaceCatalog_ok h hstaged hcatalog hnone
  · rw [hfolder]
    obtain ⟨v, hv, hworking, hfound⟩ : ∃ v,
        change (.removingStale (previousPath (output.child directoryName)))
          (fun d => d.removeFolder (previousPath (output.child directoryName))) w = .ok () v ∧
          v.disk.working = w.disk.working ∧
            v.disk.found = (w.disk.clear (folder ++ [previousName])).found :=
      ⟨_, change_eq_ok_iff.mpr ⟨_, h.removeFolder_previous hfolder, rfl⟩,
        World.working_withDisk w _, World.found_withDisk w _⟩
    have hagree : ∀ names, previousName ∈ names →
        Disk.AgreeOff w.disk (Among folder names) w.disk v.disk := fun names haside =>
      (agreeOff_clear_sibling w.disk folder haside).of_found hworking hfound
    have hcleared := found_clear_sibling w.disk folder previousName
    rw [← hfound] at hcleared
    have hsame : ∀ name, name ≠ previousName →
        v.disk.found (folder ++ [name]) = w.disk.found (folder ++ [name]) := by
      intro name hname
      have heq := hcleared name []
      rwa [if_neg hname, List.append_nil] at heq
    have hfree := hcleared previousName []
    rw [if_pos rfl, List.append_nil] at hfree
    have hdirectory := hsame directoryName (by decide)
    obtain ⟨u, hu, hexchanged⟩ := replaceCatalog_ok (h.of_agree (hagree _ (by simp)))
      (by rwa [hsame staged h.ne_previous]) (by rwa [hdirectory]) hfree
    refine ⟨u, (bind_of_ok hv _).trans hu, ?_⟩
    have hbefore := hexchanged.of_agree_before (hagree _ (by simp)) h.ne_directory h.ne_previous
    simpa only [hdirectory, hcleared directoryName, if_neg (by decide :
      directoryName ≠ previousName)] using hbefore

end

end Catalog
end IconAssets
