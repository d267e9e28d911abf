import IconAssets.Proofs.Catalog.Exchange
import IconAssets.Proofs.Catalog.Staged

/-!
# What a generation changes

A generation changes nothing but three objects in the output directory: the catalog, the catalog
that is set aside, and the staging directory.  This holds whatever the icons are called, whether the
generation succeeds, and at whichever step it fails.  Outside of the three, folders are made where
the output path finds nothing, and that is all.

All that a swap does is done under names in the output directory, by paths that lead there even
while the swap goes on, so each of its steps keeps to the three names; the steps before the swap
keep to the staging directory.

* `rename_within`, `removeFolder_within`: changes under names in a folder;
* `swapIntoPlace_touches`: the three names of a swap;
* `generate_confined`: what a generation changes.
-/

namespace IconAssets
namespace Catalog

open Run

section

variable {base d e : Disk} {folder : Place} {names : List Text} {p q : Path} {name new : Text}

/-- Renaming an object in its folder changes only what is under its two names. -/
theorem rename_within (hname : Path.IsName name) (hnew : Path.IsName new) (hne : name ≠ new)
    (hp : base.target p = folder) (hq : base.target q = folder) (hmem : [name, new] ⊆ names)
    (hd : Disk.AgreeOff base (Among folder names) base d)
    (h : d.rename (p.child name) (q.child new) = .ok e) :
    Disk.AgreeOff base (Among folder names) base e := by
  rw [← Disk.target_congr hd.right, Disk.target_eq_travel_moves] at hp hq
  obtain ⟨-, -, -, hworking, -, helse⟩ :=
    found_rename_sibling hname hnew hne hp.symm hq.symm h
  refine ⟨rfl, hworking.trans hd.right, fun r hr => ?_⟩
  rw [helse r (fun hbelow => hr ⟨name, hmem (by simp), hbelow⟩)
    fun hbelow => hr ⟨new, hmem (by simp), hbelow⟩]
  exact hd.found r hr

theorem removeFolder_within (hname : Path.IsName name) (hp : base.target p = folder)
    (hmem : name ∈ names) (hd : Disk.AgreeOff base (Among folder names) base d)
    (h : d.removeFolder (p.child name) = .ok e) :
    Disk.AgreeOff base (Among folder names) base e := by
  rw [← Disk.target_congr hd.right, Disk.target_eq_travel_moves] at hp
  obtain ⟨hworking, helse⟩ := found_remove_sibling hname hp.symm h
  refine ⟨rfl, hworking.trans hd.right, fun r hr => ?_⟩
  rw [helse r fun hbelow => hr ⟨name, hmem, hbelow⟩]
  exact hd.found r hr

end

/-- The path of the catalog that is set aside leads into the output directory. -/
theorem exists_beside_target (d : Disk) (output : Path) :
    ∃ beside : Path, previousPath (output.child directoryName) = beside.child previousName ∧
      d.target beside = d.target output := by
  obtain ⟨beside, hpath, habsolute, hmoves⟩ := exists_previousPath_eq output isName_directoryName
  refine ⟨beside, hpath, ?_⟩
  rw [Disk.target_eq_travel_moves, Disk.target_eq_travel_moves, Disk.start, Disk.start, habsolute,
    hmoves]

/-- The names in the output directory that a generation makes use of. -/
def ownNames (staged : Text) : List Text := [directoryName, previousName, staged]

section

variable {disk : Disk} {output base beside : Path} {folder : Place} {staged : Text}
  (hname : Path.IsName staged) (hdirectory : staged ≠ directoryName)
  (houtput : disk.target output = folder) (hbase : disk.target base = folder)

include hname hbase

theorem discard_touches :
    Touches disk (Among folder (ownNames staged)) (discard (base.child staged)) := by
  refine touches_attempt (fun _ _ hd h => ?_) fun _ => touches_pure ()
  exact removeFolder_within hname hbase (by simp [ownNames]) hd h

include houtput

theorem putBack_touches (hbeside : disk.target beside = folder) :
    Touches disk (Among folder (ownNames staged))
      (putBack (base.child staged) (output.child directoryName) (beside.child previousName)) := by
  intro w h
  have hdiscard : Touches disk (Among folder (ownNames staged)) (discard (base.child staged)) :=
    discard_touches hname hbase
  unfold putBack
  rw [disk_bind]
  cases hback : w.disk.rename (beside.child previousName) (output.child directoryName) with
  | ok d =>
      exact hdiscard _ (rename_within isName_previousName isName_directoryName (by decide) hbeside
        houtput (by simp [ownNames]) h hback)
  | error fault =>
      exact hdiscard _ h

include hdirectory

theorem replaceCatalog_touches :
    Touches disk (Among folder (ownNames staged))
      (replaceCatalog (base.child staged) (output.child directoryName)) := by
  obtain ⟨beside, hpath, hbeside⟩ := exists_beside_target disk output
  rw [houtput] at hbeside
  unfold replaceCatalog
  rw [hpath]
  refine (touches_change fun _ _ hd h => ?_).bind fun _ =>
    ((touches_change fun _ _ hd h => ?_).onFailure
      (putBack_touches hname houtput hbase hbeside)).bind fun _ =>
        touches_attempt (fun _ _ hd h => ?_) fun _ => touches_report _
  · exact rename_within isName_directoryName isName_previousName (by decide) houtput hbeside
      (by simp [ownNames]) hd h
  · exact rename_within hname isName_directoryName hdirectory hbase houtput
      (by simp [ownNames]) hd h
  · exact removeFolder_within isName_previousName hbeside (by simp [ownNames]) hd h

/-- A swap touches only what is under its three names, however it ends. -/
theorem swapIntoPlace_touches :
    Touches disk (Among folder (ownNames staged))
      (swapIntoPlace (base.child staged) (output.child directoryName)) := by
  obtain ⟨beside, hpath, hbeside⟩ := exists_beside_target disk output
  rw [houtput] at hbeside
  have hreplace := replaceCatalog_touches hname hdirectory houtput hbase
  intro w hw
  rw [swapIntoPlace_apply]
  split
  · split
    · rw [hpath]
      refine (touches_change fun _ _ hd h => ?_).bind (fun _ => hreplace) w hw
      exact removeFolder_within isName_previousName hbeside (by simp [ownNames]) hd h
    · exact hreplace w hw
  · refine touches_change (fun _ _ hd h => ?_) w hw
    exact rename_within hname isName_directoryName hdirectory hbase houtput
      (by simp [ownNames]) hd h

theorem finish_touches (es : List Entry) :
    Touches disk (Among folder (ownNames staged)) (finish output (base.child staged) es) :=
  (swapIntoPlace_touches hname hdirectory houtput hbase).bind fun _ =>
    (touches_report _).bind fun _ => touches_pure _

end

/-- Among the names that are not in the output directory there is a staging name. -/
theorem exists_free_stagingName (d : Disk) (here : Place) :
    ∃ n, d.found (here ++ [stagingName n]) = none := by
  have hfresh := freshName_not_mem (d.children here)
  rw [Disk.mem_children_iff, not_not] at hfresh
  exact ⟨_, hfresh⟩

/-- **A generation changes nothing but the catalog, the catalog that is set aside and a new staging
directory**, whatever its icons are called, and whether it succeeds or fails.  Elsewhere, directories
may have been made on the way of the output path, where nothing was. -/
theorem generate_confined (icons : List Text) (roots : Roots) (output : Path) (w : World) :
    ∃ n, w.disk.found (w.disk.target output ++ [stagingName n]) = none ∧
      ∀ q, ¬Among (w.disk.target output) [directoryName, previousName, stagingName n] q →
        (last (generate icons roots output w)).disk.found q = w.disk.found q ∨
          q ∈ w.disk.trail output ∧ w.disk.found q = none ∧
            (last (generate icons roots output w)).disk.found q = some .folder := by
  have hopened := Disk.found_makeFolders w.disk output
  have hgrows := Disk.grows_makeFolders w.disk output
  rcases generate_cases icons roots output w with
    ⟨f, w', hrun, -, -, hfound⟩ | ⟨-, folder, name, es, v, hassembled, hrun⟩
  · -- Nothing is left but the directories on the way.
    obtain ⟨n, hfree⟩ := exists_free_stagingName w.disk (w.disk.target output)
    refine ⟨n, hfree, fun q _ => ?_⟩
    rw [hrun, last_error, hfound]
    exact hopened q
  · obtain ⟨hfresh, hstage, -, -, hagree⟩ := hassembled
    obtain ⟨n, rfl⟩ : ∃ n, name = stagingName n := ⟨_, hfresh⟩
    have hfolder : folder = w.disk.target output := by
      rw [hstage.folder_eq, Disk.target_congr hgrows.working]
    have hworking : v.disk.working = w.disk.working := hagree.right.trans hgrows.working
    have hfree : w.disk.found (folder ++ [stagingName n]) = none := by
      by_contra hthere
      exact hthere ((hgrows.found _ hthere).symm.trans hstage.free)
    have houtput : v.disk.target output = folder := by
      rw [Disk.target_congr hworking, hfolder]
    have hbase : v.disk.target ((w.disk.makeFolders output).1.absolute output) = folder :=
      (here_eq_target (hstage.leads_absolute hagree)).symm
    have hfinish := finish_touches hstage.isName hstage.ne_directory houtput hbase es v
      (Disk.AgreeOff.refl _ _)
    rw [← hrun] at hfinish
    rw [← hfolder]
    refine ⟨n, hfree, fun q hq => ?_⟩
    have hstaged : ¬folder ++ [stagingName n] <+: q := fun hbelow => hq ⟨_, by simp, hbelow⟩
    rw [← hfinish.found q hq, hstage.found_elsewhere hagree hstaged]
    exact hopened q

end Catalog
end IconAssets
