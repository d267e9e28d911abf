import IconAssets.Proofs.Catalog.Staged

/-!
# Generations that ignore some places

What a generation does and how it ends does not depend on places outside of the output directory
that are neither on the way there nor on the way to an image.

* `writeEntry_ignores`, `writeEntries_ignores`, `writeAll_ignores`: the image sets;
* `swapIntoPlace_ignores`: the swap;
* `generate_ignores`: the whole generation.
-/

namespace IconAssets
namespace Catalog

open Run

variable {base : Disk} {off : Place → Prop} {roots : Roots} {icons : List Text} {output : Path}

theorem writeContents_ignores {p : Path} (hp : base.ClearOff off p) (document : Text) :
    IgnoresOff base off (writeContents (p.child contentsName) document) :=
  ignoresOff_change fun _ _ h => h.writeFile (hp.child isName_contentsName).avoids _

theorem writeEntry_ignores {staging source : Path} (catalog : Path) {icon : Identifier}
    (hdirectory : base.ClearOff off (staging.child (imagesetName icon.assetName)))
    (himage : base.Avoids off source) :
    IgnoresOff base off (writeEntry staging catalog icon source) := by
  unfold writeEntry
  split
  · exact ignoresOff_fail _
  · next filename hfilename =>
    have himageFile := hdirectory.child (Path.isName_of_fileName? hfilename)
    refine (ignoresOff_makeFolders hdirectory.avoids).bind fun _ => ?_
    refine (ignoresOff_read fun _ _ h => h.readFile himage).bind fun data => ?_
    refine (ignoresOff_change fun _ _ h => h.writeFile himageFile.avoids _).bind fun _ => ?_
    exact (writeContents_ignores hdirectory _).bind fun _ => ignoresOff_pure _

theorem writeEntries_ignores {staging : Path} (catalog : Path)
    (hdirectories : ∀ c ∈ mapped roots icons,
      base.ClearOff off (staging.child (imagesetName c.1.assetName)))
    (himages : ∀ c ∈ mapped roots icons, base.Avoids off c.2) (written : List Text) :
    IgnoresOff base off (writeEntries roots staging catalog written icons) := by
  induction icons generalizing written with
  | nil =>
      exact ignoresOff_pure []
  | cons raw icons ih =>
      have hsubset := @mapped_subset_cons roots raw icons
      have hrest := ih (fun c hc => hdirectories c (hsubset hc)) fun c hc => himages c (hsubset hc)
      cases next_cases roots staging catalog written raw icons with
      | passedOver e _ _ hrun =>
          rw [hrun]
          exact (ignoresOff_report e).bind fun _ => hrest written
      | written hparse hpath _ _ hrun =>
          have hdirectory := hdirectories _ (mem_mapped_of_path List.mem_cons_self hparse hpath)
          have himage := himages _ (mem_mapped_of_path List.mem_cons_self hparse hpath)
          rw [hrun]
          exact (writeEntry_ignores catalog hdirectory himage).bind fun _ =>
            (hrest _).bind fun _ => ignoresOff_pure _

theorem writeAll_ignores {staging : Path} (catalog : Path) (hstaging : base.ClearOff off staging)
    (hdirectories : ∀ c ∈ mapped roots icons,
      base.ClearOff off (staging.child (imagesetName c.1.assetName)))
    (himages : ∀ c ∈ mapped roots icons, base.Avoids off c.2) :
    IgnoresOff base off (writeAll roots staging catalog icons) :=
  (writeEntries_ignores catalog hdirectories himages []).bind fun _ =>
    (writeContents_ignores hstaging _).bind fun _ => ignoresOff_pure _

/-- A directory is removed if that can be done. -/
theorem discard_ignores {p : Path} {name : Text} (hname : Path.IsName name)
    (h : base.ClearOff off (p.child name)) : IgnoresOff base off (discard (p.child name)) :=
  ignoresOff_attempt
    (fun _ _ hagree => hagree.removeFolder h.avoids (Disk.target_child_ne_nil hname))
    fun _ => ignoresOff_pure _

/-- The same names are taken in a directory, except by what the disks do not agree about. -/
theorem mem_namesIn {d e : Disk} {p : Path} {name : Text} (h : Disk.AgreeOff base off d e)
    (hp : base.Avoids off p) (hname : ¬off (base.target p ++ [name])) :
    name ∈ namesIn d p ↔ name ∈ namesIn e p := by
  have hfollow : d.follow p = e.follow p := by
    rw [Disk.follow, Disk.follow, h.start p]
    exact Disk.walk_congr (h.found_trail hp)
  unfold namesIn
  rw [← hfollow]
  cases hplace : d.follow p with
  | error fault =>
      rfl
  | ok q =>
      have htarget : q = base.target p := by
        rw [Disk.eq_travel_of_walk hplace, ← Disk.target_congr h.left]
        rfl
      rw [htarget, Disk.mem_children_iff, Disk.mem_children_iff, h.found _ hname]

theorem makeStaging_ignores
    (hstaging : ∀ n, base.ClearOff off ((base.absolute output).child (stagingName n))) :
    IgnoresOff base off (makeStaging roots output icons) := by
  refine ignoresOff_disk_bind fun w v h => ?_
  have hleft := Disk.absolute_congr h.left output
  have hright := Disk.absolute_congr h.right output
  have hname : freshName (namesInUse w.disk roots output icons) =
      freshName (namesInUse v.disk roots output icons) := by
    refine freshName_congr fun n => ?_
    have hbelow := (hstaging n).below []
    rw [List.append_nil, Disk.target_child base _ (isName_stagingName n)] at hbelow
    unfold namesInUse textsInUse
    rw [hleft, hright, h.left, h.right, List.mem_append, List.mem_append,
      mem_namesIn h ((hstaging n).avoids.of_child (isName_stagingName n)) hbelow]
  have hmade := (hstaging (freshNumber (namesInUse v.disk roots output icons)
    ((namesInUse v.disk roots output icons).length + 1) 0)).avoids
  rw [hleft, hright, hname]
  rcases Disk.matchesOff_cases (h.makeFolder hmade) with ⟨fault, hw, hv⟩ | ⟨d, e, hw, hv, h'⟩
  · dsimp only [freshName]
    rw [hw, hv]
    exact ⟨rfl, h⟩
  · dsimp only [freshName]
    rw [hw, hv]
    exact ⟨rfl, h'⟩

/-- The catalog that is set aside is clear where the catalog is, beside it. -/
theorem clear_previousPath (h : base.ClearOff off output) :
    base.ClearOff off (previousPath (output.child directoryName)) ∧
      base.target (previousPath (output.child directoryName)) =
        base.target output ++ [previousName] := by
  obtain ⟨beside, hpath, habsolute, hmoves⟩ :=
    exists_previousPath_eq output isName_directoryName
  have hname := isName_previousName
  rw [hpath]
  refine ⟨(h.of_moves habsolute hmoves).child hname, ?_⟩
  rw [Disk.target_child base beside hname, Disk.target_eq_travel_moves,
    Disk.target_eq_travel_moves, hmoves, Disk.start, Disk.start, habsolute]

/-- Putting a catalog together ignores what is neither in its staging directory nor on the way to an
image. -/
theorem assemble_ignores
    (hstaging : ∀ n, base.ClearOff off ((base.absolute output).child (stagingName n)))
    (hdirectories : ∀ n, ∀ c ∈ mapped roots icons, base.ClearOff off
      (((base.absolute output).child (stagingName n)).child (imagesetName c.1.assetName)))
    (himages : ∀ c ∈ mapped roots icons, base.Avoids off c.2) :
    IgnoresOff base off (assemble icons roots output) := by
  refine (makeStaging_ignores hstaging).bind_of_ok fun w staging w' hworking hmade => ?_
  obtain ⟨d, rfl, -, -⟩ := makeStaging_ok hmade
  rw [Disk.absolute_congr hworking]
  have hname := isName_freshName (namesInUse w.disk roots output icons)
  exact ((writeAll_ignores _ (hstaging _) (hdirectories _) himages).onFailure
    (discard_ignores hname (hstaging _))).bind fun _ => ignoresOff_pure _

theorem swapIntoPlace_ignores {staged : Text} (hname : Path.IsName staged)
    (hcatalog : staged ≠ directoryName) (houtput : base.ClearOff off (base.absolute output)) :
    IgnoresOff base off
      (swapIntoPlace ((base.absolute output).child staged) (output.child directoryName)) := by
  have hstaged := houtput.child hname
  have hplace := houtput.of_absolute.child isName_directoryName
  obtain ⟨hprevious, haside⟩ := clear_previousPath houtput.of_absolute
  have hroot : base.target (previousPath (output.child directoryName)) ≠ [] := by
    rw [haside]
    simp
  have htarget := Disk.target_child base output isName_directoryName
  have htarget' : base.target ((base.absolute output).child staged) =
      base.target output ++ [staged] := by
    rw [Disk.target_child base _ hname, Disk.target_absolute]
  have hmove : IgnoresOff base off (change (.moving (output.child directoryName)) fun d =>
      d.rename ((base.absolute output).child staged) (output.child directoryName)) :=
    ignoresOff_change fun _ _ h => h.rename hstaged hplace.avoids (by
      rw [htarget, htarget']
      exact not_prefix_beside _ hcatalog)
  have hsetAside : IgnoresOff base off (change (.settingAside (output.child directoryName)) fun d =>
      d.rename (output.child directoryName) (previousPath (output.child directoryName))) :=
    ignoresOff_change fun _ _ h => h.rename hplace hprevious.avoids (by
      rw [htarget, haside]
      exact not_prefix_beside _ (by decide))
  have hputBack : IgnoresOff base off (putBack ((base.absolute output).child staged)
      (output.child directoryName) (previousPath (output.child directoryName))) := by
    refine ignoresOff_disk_bind fun w v h => ?_
    rcases Disk.matchesOff_cases (h.rename hprevious hplace.avoids (by
      rw [htarget, haside]
      exact not_prefix_beside _ (by decide))) with ⟨fault, hw, hv⟩ | ⟨d, e, hw, hv, h'⟩
    · rw [hw, hv]
      exact ((ignoresOff_report _).bind fun _ => discard_ignores hname hstaged) w v h
    · rw [hw, hv]
      exact discard_ignores hname hstaged _ _ h'
  have hremove : IgnoresOff base off
      (removePrevious (previousPath (output.child directoryName))) :=
    ignoresOff_attempt (fun _ _ h => h.removeFolder hprevious.avoids hroot)
      fun _ => ignoresOff_report _
  have hreplace : IgnoresOff base off
      (replaceCatalog ((base.absolute output).child staged) (output.child directoryName)) :=
    hsetAside.bind fun _ => (hmove.onFailure hputBack).bind fun _ => hremove
  have hstale : IgnoresOff base off
      (change (.removingStale (previousPath (output.child directoryName)))
        fun d => d.removeFolder (previousPath (output.child directoryName))) :=
    ignoresOff_change fun _ _ h => h.removeFolder hprevious.avoids hroot
  intro w v h
  rw [swapIntoPlace_apply, swapIntoPlace_apply, h.hasObject hplace.avoids,
    h.hasObject hprevious.avoids]
  split
  · split
    · exact hstale.bind (fun _ => hreplace) w v h
    · exact hreplace w v h
  · exact hmove w v h

/-- **A generation ignores what is outside of the output directory**, as long as this is neither on
the way to the directory nor on the way to an image. -/
theorem generate_ignores (hicons : ∀ raw ∈ icons, '/' ∉ raw)
    (houtput : base.ClearOff off (base.absolute output))
    (himages : ∀ c ∈ mapped roots icons, base.Avoids off c.2) :
    IgnoresOff base off (generate icons roots output) := by
  have hstaging := fun n => houtput.child (isName_stagingName n)
  have hdirectories : ∀ n, ∀ c ∈ mapped roots icons, base.ClearOff off
      (((base.absolute output).child (stagingName n)).child (imagesetName c.1.assetName)) := by
    intro n c hc
    obtain ⟨raw, hraw, hparse, -⟩ := mem_mapped hc
    have hicon := Identifier.slash_not_mem_baseName hparse (hicons raw hraw)
    exact (hstaging n).child (isName_imagesetName (Identifier.slash_not_mem_assetName hicon))
  rw [generate_eq_assemble]
  refine (ignoresOff_makeFolders houtput.of_absolute.avoids).bind fun _ => ?_
  refine (assemble_ignores hstaging hdirectories himages).bind_of_ok
    fun w assembled w' hworking hrun => ?_
  obtain ⟨folder, name, es, rfl, hassembled⟩ := assembled_of_ok hrun
  rw [Disk.absolute_congr hworking]
  refine (swapIntoPlace_ignores hassembled.stage.isName hassembled.stage.ne_directory
    houtput).bind fun _ => ?_
  exact (ignoresOff_report _).bind fun _ => ignoresOff_pure _

end Catalog
end IconAssets
