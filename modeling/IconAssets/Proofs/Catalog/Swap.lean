import IconAssets.Catalog.Generate
import IconAssets.Proofs.Disk.Grows
import IconAssets.Proofs.Icon.Names
import IconAssets.Proofs.Run

/-!
# Swapping a catalog into place

The staging directory, the catalog and the catalog that is set aside stand side by side in one
folder, under three different names.  Whatever was there under the names of the catalogs, a swap
that succeeds moves exactly the staged objects to the place of the catalog.

* `replaceCatalog`, `swapIntoPlace_apply`: a swap with and without a catalog before;
* `swapIntoPlace_cases`, `swapIntoPlace_error_cases`: swaps that succeed and that fail;
* `found_rename_sibling`: moving an object to another name in its folder;
* `swapIntoPlace_ok`: what is found after a swap.
-/

namespace IconAssets
namespace Catalog

variable {w w' : World}

theorem previousPath_eq {output beside : Path} {name : Text} (h : Path.IsName name)
    (hparent : (output.child name).parent? = some beside) :
    previousPath (output.child name) = beside.child previousName := by
  rw [previousPath, Path.withFileName, Path.fileName?_child output h, hparent]
  rfl

/-- The catalog that is set aside is in the folder of the catalog. -/
theorem exists_previousPath_eq (output : Path) {name : Text} (h : Path.IsName name) :
    ∃ beside : Path, previousPath (output.child name) = beside.child previousName ∧
      beside.isAbsolute = output.isAbsolute ∧ beside.moves = output.moves := by
  obtain ⟨beside, hparent, habsolute, hmoves⟩ := Path.parent?_child output h
  exact ⟨beside, previousPath_eq h hparent, habsolute, hmoves⟩

/-- Removing what is left of a former catalog succeeds, and changes the disk or not. -/
theorem removePrevious_ok {previous : Path} {u : Unit} (h : removePrevious previous w = .ok u w') :
    w'.disk = w.disk ∨ w.disk.removeFolder previous = .ok w'.disk := by
  unfold removePrevious at h
  rw [Run.disk_bind] at h
  cases hremove : w.disk.removeFolder previous with
  | ok d =>
      rw [hremove] at h
      rw [Run.modify_eq_ok_iff.mp h]
      exact Or.inr rfl
  | error fault =>
      rw [hremove] at h
      rw [Run.report_eq_ok_iff.mp h]
      exact Or.inl rfl

theorem removePrevious_ne_error {previous : Path} {f : Failure} :
    removePrevious previous w ≠ .error f w' := by
  unfold removePrevious
  rw [Run.disk_bind]
  cases w.disk.removeFolder previous with
  | ok d =>
      intro h
      cases h
  | error fault =>
      exact Run.report_ne_error

/-- Sets the catalog aside, moves the staged one to its place, and removes the former one. -/
def replaceCatalog (staging catalog : Path) : Run Unit := do
  Run.change (.settingAside catalog) fun d => d.rename catalog (previousPath catalog)
  Run.onFailure (Run.change (.moving catalog) fun d => d.rename staging catalog)
    (putBack staging catalog (previousPath catalog))
  removePrevious (previousPath catalog)

/-- A swap replaces the catalog that is there, and whatever is left beside it is removed before. -/
theorem swapIntoPlace_apply (staging catalog : Path) (w : World) :
    swapIntoPlace staging catalog w =
      if w.disk.hasObject catalog then
        if w.disk.hasObject (previousPath catalog) then
          (Run.change (.removingStale (previousPath catalog))
            (fun d => d.removeFolder (previousPath catalog)) >>= fun _ =>
              replaceCatalog staging catalog) w
        else replaceCatalog staging catalog w
      else Run.change (.moving catalog) (fun d => d.rename staging catalog) w := by
  unfold swapIntoPlace
  rw [Run.disk_bind]
  split
  · rw [Run.disk_bind]
    split <;> rfl
  · rfl

/-- What a swap that succeeds does.  Without a catalog before, the staged one is moved to its
place; else the former one is set aside first, for which its place has to be free, and may be
removed last. -/
theorem swapIntoPlace_cases {staging catalog : Path} {u : Unit}
    (h : swapIntoPlace staging catalog w = .ok u w') :
    (∃ d, w.disk.rename staging catalog = .ok d ∧ w' = w.withDisk d) ∨
      ∃ v d e,
        (v = w ∨ ∃ c, w.disk.removeFolder (previousPath catalog) = .ok c ∧ v = w.withDisk c) ∧
          v.disk.rename catalog (previousPath catalog) = .ok d ∧
            (v.withDisk d).disk.rename staging catalog = .ok e ∧
              (w'.disk = ((v.withDisk d).withDisk e).disk ∨
                ((v.withDisk d).withDisk e).disk.removeFolder (previousPath catalog) =
                  .ok w'.disk) := by
  unfold swapIntoPlace at h
  rw [Run.disk_bind] at h
  split at h
  · rw [Run.disk_bind] at h
    refine Or.inr ?_
    split at h
    · simp only [Run.bind_eq_ok_iff, Run.onFailure_eq_ok_iff, Run.change_eq_ok_iff] at h
      obtain ⟨_, _, ⟨c, hc, rfl⟩, _, _, ⟨d, hd, rfl⟩, _, _, ⟨e, he, rfl⟩, hlast⟩ := h
      exact ⟨_, d, e, Or.inr ⟨c, hc, rfl⟩, hd, he, removePrevious_ok hlast⟩
    · simp only [Run.bind_eq_ok_iff, Run.onFailure_eq_ok_iff, Run.change_eq_ok_iff] at h
      obtain ⟨_, _, ⟨d, hd, rfl⟩, _, _, ⟨e, he, rfl⟩, hlast⟩ := h
      exact ⟨w, d, e, Or.inl rfl, hd, he, removePrevious_ok hlast⟩
  · exact Or.inl (Run.change_eq_ok_iff.mp h)

/-- Where the replacing of a catalog can fail: before anything has been changed, or when it has been
set aside, which is then put back. -/
theorem replaceCatalog_error_cases {staging catalog : Path} {f : Failure}
    (h : replaceCatalog staging catalog w = .error f w') :
    w' = w ∨
      f.steps = [.moving catalog] ∧
        ∃ d, w.disk.rename catalog (previousPath catalog) = .ok d ∧
          w' = Run.last (putBack staging catalog (previousPath catalog) (w.withDisk d)) := by
  unfold replaceCatalog at h
  rcases Run.bind_eq_error_iff.mp h with haside | ⟨_, _, haside, h⟩
  · obtain ⟨-, -, -, rfl⟩ := Run.change_eq_error_iff.mp haside
    exact Or.inl rfl
  · obtain ⟨d, hd, rfl⟩ := Run.change_eq_ok_iff.mp haside
    rcases Run.bind_eq_error_iff.mp h with hmove | ⟨_, _, -, hremove⟩
    · obtain ⟨u, hfail, rfl⟩ := Run.onFailure_eq_error_iff.mp hmove
      obtain ⟨fault, -, rfl, rfl⟩ := Run.change_eq_error_iff.mp hfail
      exact Or.inr ⟨rfl, d, hd, rfl⟩
    · exact absurd hremove removePrevious_ne_error

/-- Where a swap can fail: before anything has been changed, when what is left of a former catalog
has been removed, or when the former catalog has been set aside, which is then put back. -/
theorem swapIntoPlace_error_cases {staging catalog : Path} {f : Failure}
    (h : swapIntoPlace staging catalog w = .error f w') :
    w' = w ∨
      ∃ v,
        (v = w ∨ ∃ c, w.disk.removeFolder (previousPath catalog) = .ok c ∧ v = w.withDisk c) ∧
          (w' = v ∨
            f.steps = [.moving catalog] ∧
              ∃ d, v.disk.rename catalog (previousPath catalog) = .ok d ∧
                w' = Run.last (putBack staging catalog (previousPath catalog) (v.withDisk d))) := by
  rw [swapIntoPlace_apply] at h
  split at h
  · split at h
    · rcases Run.bind_eq_error_iff.mp h with hstale | ⟨_, v, hstale, h⟩
      · obtain ⟨-, -, -, rfl⟩ := Run.change_eq_error_iff.mp hstale
        exact Or.inl rfl
      · obtain ⟨c, hc, rfl⟩ := Run.change_eq_ok_iff.mp hstale
        exact Or.inr ⟨_, Or.inr ⟨c, hc, rfl⟩, replaceCatalog_error_cases h⟩
    · exact Or.inr ⟨w, Or.inl rfl, replaceCatalog_error_cases h⟩
  · obtain ⟨-, -, -, rfl⟩ := Run.change_eq_error_iff.mp h
    exact Or.inl rfl

theorem not_prefix_sibling {folder q : Place} {name other : Text} (h : name ≠ other) :
    ¬folder ++ [name] <+: folder ++ [other] ++ q := by
  rw [List.append_assoc, List.prefix_append_right_inj]
  simpa using h

theorem not_prefix_beside (folder : Place) {name other : Text} (h : name ≠ other) :
    ¬folder ++ [name] <+: folder ++ [other] := by
  rw [List.prefix_append_right_inj]
  simpa using h

/-- Moving an object to another name in its folder. -/
theorem found_rename_sibling {d e : Disk} {p q : Path} {name new : Text} {folder : Place}
    (hname : Path.IsName name) (hnew : Path.IsName new) (hne : name ≠ new)
    (hp : folder = Disk.travel (d.start p) p.moves) (hq : folder = Disk.travel (d.start q) q.moves)
    (h : d.rename (p.child name) (q.child new) = .ok e) :
    Disk.textFault? (q.child new) = none ∧
      d.Leads q folder ∧ d.found (folder ++ [new]) = none ∧ e.working = d.working ∧
        (∀ r, e.found (folder ++ [new] ++ r) = d.found (folder ++ [name] ++ r)) ∧
          ∀ r, ¬folder ++ [name] <+: r → ¬folder ++ [new] <+: r → e.found r = d.found r := by
  obtain ⟨-, -, htext, -, source, target, hsource, htarget, hfound, hnone, rfl⟩ :=
    (Disk.rename_child_eq_ok_iff hname hnew).mp h
  obtain rfl : source = folder := hsource.eq_travel.trans hp.symm
  obtain rfl : target = source := htarget.eq_travel.trans hq.symm
  have hmove := Disk.found_move hfound hsource.found (not_prefix_beside target hne) hnone
  refine ⟨htext, htarget, hnone, rfl, fun r => ?_, fun r hr hr' => ?_⟩
  · rw [hmove, if_pos (List.prefix_append _ r), List.drop_left]
  · rw [hmove, if_neg hr', if_neg hr]

theorem found_remove_sibling {d e : Disk} {p : Path} {name : Text} {folder : Place}
    (hname : Path.IsName name) (hp : folder = Disk.travel (d.start p) p.moves)
    (h : d.removeFolder (p.child name) = .ok e) :
    e.working = d.working ∧ ∀ r, ¬folder ++ [name] <+: r → e.found r = d.found r := by
  obtain ⟨-, -, source, hsource, -, rfl⟩ := (Disk.removeFolder_child_eq_ok_iff hname).mp h
  obtain rfl : source = folder := hsource.eq_travel.trans hp.symm
  refine ⟨rfl, fun r hr => ?_⟩
  rw [Disk.found_clear d (by simp), if_neg hr]

/-- What is left of a former catalog may have been removed, and nothing else. -/
theorem found_of_cleared {beside : Path} {folder : Place} {v : World}
    (hplace : folder = Disk.travel (w.disk.start beside) beside.moves)
    (h : v = w ∨
      ∃ c, w.disk.removeFolder (beside.child previousName) = .ok c ∧ v = w.withDisk c) :
    v.disk.working = w.disk.working ∧
      ∀ r, ¬folder ++ [previousName] <+: r → v.disk.found r = w.disk.found r := by
  rcases h with rfl | ⟨c, hc, rfl⟩
  · exact ⟨rfl, fun _ _ => rfl⟩
  · simpa using found_remove_sibling isName_previousName hplace hc

/-- The way to a folder stays away from places where nothing is found. -/
theorem not_prefix_of_mem_stops {d : Disk} {p : Path} {folder q r : Place} (hp : d.Leads p folder)
    (hq : d.found q = none) (hr : r ∈ Disk.stops (d.start p) p.moves) : ¬q <+: r := fun hbelow =>
  Disk.found_of_mem_stops hp.walk (by simp [hp.start]) hr (Disk.found_below hbelow hq)

/-- After a swap that succeeds, the place of the catalog holds exactly what was staged, and the
output path still leads to its folder. -/
theorem swapIntoPlace_ok {output base : Path} {folder : Place} {staged : Text} {u : Unit}
    (hname : Path.IsName staged) (hcatalog : staged ≠ directoryName)
    (hprevious : staged ≠ previousName) (houtput : w.disk.Leads output folder)
    (hbase : folder = Disk.travel (w.disk.start base) base.moves)
    (hfresh : ∀ r ∈ Disk.stops (w.disk.start output) output.moves, ¬folder ++ [staged] <+: r)
    (h : swapIntoPlace (base.child staged) (output.child directoryName) w = .ok u w') :
    Disk.textFault? (output.child directoryName) = none ∧
      w'.disk.working = w.disk.working ∧ w'.disk.Leads output folder ∧
        ∀ r, w'.disk.found (folder ++ [directoryName] ++ r) =
        w.disk.found (folder ++ [staged] ++ r) := by
  rcases swapIntoPlace_cases h with ⟨d, hd, rfl⟩ | ⟨v, d, e, hv, hd, he, hlast⟩
  · obtain ⟨htext, -, hfree, hworking, hmoved, helse⟩ :=
      found_rename_sibling hname isName_directoryName hcatalog hbase houtput.eq_travel hd
    simp only [World.working_withDisk, World.found_withDisk]
    refine ⟨htext, hworking, ?_, hmoved⟩
    refine houtput.of_agree (Disk.start_congr (by rw [World.working_withDisk, hworking]) output)
      fun r hr _ => ?_
    rw [World.found_withDisk]
    exact helse r (hfresh r hr) (not_prefix_of_mem_stops houtput hfree hr)
  · obtain ⟨beside, hpath, habsolute, hmoves⟩ := exists_previousPath_eq output isName_directoryName
    rw [hpath] at hv hd hlast
    have hplace : ∀ f : Disk, f.working = w.disk.working →
        folder = Disk.travel (f.start output) output.moves ∧
          folder = Disk.travel (f.start beside) beside.moves ∧
            folder = Disk.travel (f.start base) base.moves := by
      intro f hf
      have hstart : f.start beside = f.start output := by rw [Disk.start, Disk.start, habsolute]
      rw [hstart, hmoves, Disk.start_congr hf output, Disk.start_congr hf base]
      exact ⟨houtput.eq_travel, houtput.eq_travel, hbase⟩
    -- The place for the former catalog is cleared, if that is needed.
    obtain ⟨hworking₁, helse₁⟩ := found_of_cleared (hplace w.disk rfl).2.1 hv
    -- The former catalog is set aside.
    obtain ⟨-, hbeside, hfree₁, hworking₂, -, helse₂⟩ :=
      found_rename_sibling isName_directoryName isName_previousName (by decide)
        (hplace v.disk hworking₁).1 (hplace v.disk hworking₁).2.1 hd
    have hsame : (v.withDisk d).disk.working = w.disk.working := by
      rw [World.working_withDisk, hworking₂, hworking₁]
    -- The new catalog takes its place.
    obtain ⟨htext, houtput₂, hfree₂, hworking₃, hmoved₃, helse₃⟩ :=
      found_rename_sibling hname isName_directoryName hcatalog (hplace _ hsame).2.2
        (hplace _ hsame).1 he
    rw [World.working_withDisk] at hworking₃
    rw [World.found_withDisk] at hmoved₃ helse₃
    -- The former catalog may be removed.
    have hremoved : w'.disk.working = e.working ∧
        ∀ r, ¬folder ++ [previousName] <+: r → w'.disk.found r = e.found r := by
      rcases hlast with heq | hremove
      · rw [heq, World.working_withDisk, World.found_withDisk]
        exact ⟨rfl, fun _ _ => rfl⟩
      · have hthen : ((v.withDisk d).withDisk e).disk.working = w.disk.working := by
          rw [World.working_withDisk, hworking₃, hworking₂, hworking₁]
        have hgone := found_remove_sibling isName_previousName (hplace _ hthen).2.1 hremove
        rwa [World.working_withDisk, World.found_withDisk] at hgone
    obtain ⟨hworking₄, helse₄⟩ := hremoved
    have hworking : w'.disk.working = w.disk.working := by
      rw [hworking₄, hworking₃, hworking₂, hworking₁]
    refine ⟨htext, hworking, ?_, fun r => ?_⟩
    · refine houtput₂.of_agree (Disk.start_congr (hworking.trans hsame.symm) output)
        fun r hr _ => ?_
      have hstops := hr
      rw [Disk.start_congr hsame output] at hstops
      have hkept := not_prefix_of_mem_stops (hbeside.of_moves habsolute.symm hmoves.symm) hfree₁
        (by rwa [Disk.start_congr hworking₁ output])
      rw [World.found_withDisk, helse₄ r hkept,
        helse₃ r (hfresh r hstops) (not_prefix_of_mem_stops houtput₂ hfree₂ hr)]
    · rw [helse₄ _ (not_prefix_sibling (by decide)), hmoved₃,
        helse₂ _ (not_prefix_sibling hcatalog.symm) (not_prefix_sibling hprevious.symm),
        helse₁ _ (not_prefix_sibling hprevious.symm)]

end Catalog
end IconAssets
