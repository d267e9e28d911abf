import IconAssets.Proofs.Catalog.Ignoring
import IconAssets.Proofs.Catalog.Passing
import IconAssets.Proofs.Disk.Agreement

/-!
# Generations that are repeated

A generation that has succeeded is repeated at once.  It then finds a catalog, and beside it what
the first one has left there, and all else as before.  So it puts together the same catalog; but
this catalog can take the place of the first one only if what is beside it can be removed.

* `generate_ok_cases`: what a generation that succeeds leaves behind;
* `Assembled.agree_exchanged`: it leaves all as before but the two places of the catalog;
* `Assembled.again`: the second generation puts the same catalog together;
* `generate_again_iff`: when it succeeds.
-/

namespace IconAssets
namespace Catalog

open Run

variable {icons : List Text} {roots : Roots} {output : Path} {w w' : World} {g : Generated}

theorem generate_ok_cases (hworking : ∀ name ∈ w.disk.working, Path.IsName name)
    (h : generate icons roots output w = .ok g w') :
    ∃ folder name es v,
      Assembled icons roots output { w with disk := (w.disk.makeFolders output).1 } folder name es
          v ∧
        ¬Blocked (w.disk.makeFolders output).1 output folder ∧
          g = ⟨output.child directoryName, es⟩ ∧
            Exchanged v.disk w'.disk folder name (leftAside v.disk folder) := by
  rcases generate_outcome icons roots output hworking with ⟨f, u, hrun, -⟩ |
    ⟨folder, name, es, v, hassembled, ⟨hblocked, u, hrun, hexchanged⟩ | ⟨-, f, u, hrun, -⟩⟩
  · rw [hrun] at h
    cases h
  · rw [hrun] at h
    cases h
    exact ⟨folder, name, es, v, hassembled, hblocked, rfl, hexchanged⟩
  · rw [hrun] at h
    cases h

/-- A generation that succeeds leaves all as before but the two places of the catalog. -/
theorem Assembled.agree_exchanged {folder : Place} {name : Text} {es : List Entry} {v : World}
    {e : Disk} {aside : Place → Option Object}
    (h : Assembled icons roots output w folder name es v)
    (hexchanged : Exchanged v.disk e folder name aside) :
    Disk.AgreeOff w.disk (Among folder [directoryName, previousName]) w.disk e := by
  refine ⟨rfl, hexchanged.working.trans h.agree.right, fun q hq => ?_⟩
  by_cases hstaged : folder ++ [name] <+: q
  · obtain ⟨r, rfl⟩ := hstaged
    rw [hexchanged.gone, Disk.found_below (List.prefix_append _ r) h.stage.free]
  · rw [hexchanged.other q, h.stage.found_elsewhere h.agree hstaged]
    rintro ⟨other, hother, hbelow⟩
    rcases List.mem_cons.mp hother with rfl | hother
    · exact hstaged hbelow
    · exact hq ⟨other, hother, hbelow⟩

section

variable {folder : Place} {name : Text} {es : List Entry} {v : World}

/-- The way into a staging directory passes no other name in the output directory. -/
theorem clearOff_stagingName {d : Disk} {names : List Text} (hfolder : folder = d.target output)
    (hway : d.Avoids (Among folder names) (d.absolute output)) {n : Nat}
    (hnames : stagingName n ∉ names) :
    d.ClearOff (Among folder names) ((d.absolute output).child (stagingName n)) := by
  have hname := isName_stagingName n
  have hbelow : ∀ r, ¬Among folder names (folder ++ [stagingName n] ++ r) := by
    rintro r ⟨other, hother, hbelow⟩
    refine not_prefix_sibling ?_ hbelow
    rintro rfl
    exact hnames hother
  constructor
  · intro r hr
    rcases (Disk.mem_trail_child_iff hname).mp hr with hr | rfl
    · exact hway r hr
    · rw [Disk.target_absolute, ← hfolder, ← List.append_nil (folder ++ [stagingName n])]
      exact hbelow []
  · intro r
    rw [Disk.target_child d _ hname, Disk.target_absolute, ← hfolder]
    exact hbelow r

/-- On a disk that differs only at the two places of the catalog, the same catalog is put together
in the same staging directory. -/
theorem Assembled.again (h : Assembled icons roots output w folder name es v)
    (hway : w.disk.Avoids (Among folder [directoryName, previousName]) (w.disk.absolute output))
    (himages : ∀ c ∈ mapped roots icons,
      w.disk.Avoids (Among folder [directoryName, previousName]) c.2)
    (hagree : Disk.AgreeOff w.disk (Among folder [directoryName, previousName]) w.disk w'.disk) :
    ∃ v', Assembled icons roots output w' folder name es v' ∧
      Disk.AgreeOff w.disk (Among folder [directoryName, previousName]) v.disk v'.disk := by
  have hstaging : ∀ n, w.disk.ClearOff (Among folder [directoryName, previousName])
      ((w.disk.absolute output).child (stagingName n)) := by
    refine fun n => clearOff_stagingName h.stage.folder_eq hway ?_
    rw [List.mem_pair, not_or]
    exact ⟨stagingName_ne_of_head (by decide) n, stagingName_ne_of_head (by decide) n⟩
  have hdirectories : ∀ n, ∀ c ∈ mapped roots icons,
      w.disk.ClearOff (Among folder [directoryName, previousName])
        (((w.disk.absolute output).child (stagingName n)).child (imagesetName c.1.assetName)) := by
    intro n c hc
    obtain ⟨raw, -, hparse, -⟩ := mem_mapped hc
    exact (hstaging n).join (isAbsolute_imagesetName c.1) fun _ =>
      not_up_of_mem_moves_imagesetName hparse
  have hsame := assemble_ignores hstaging hdirectories himages w w' hagree
  rcases sameOff_cases hsame with ⟨a, u, v', hrun, hrun', hagree'⟩ | ⟨f, u, v', hrun, -⟩
  · rw [h.run] at hrun
    cases hrun
    obtain ⟨folder', name', es', heq, hassembled⟩ := assembled_of_ok hrun'
    obtain ⟨hstaging', rfl⟩ := Prod.mk.inj heq
    -- The staging directories are the same, so their names and folders are.
    have hfile := congrArg Path.fileName? hstaging'
    rw [Path.fileName?_child _ h.stage.isName,
      Path.fileName?_child _ hassembled.stage.isName] at hfile
    obtain rfl := Option.some_inj.mp hfile
    have hfolder : folder' = folder := by
      rw [hassembled.stage.folder_eq, h.stage.folder_eq, Disk.target_congr hagree.right]
    exact ⟨v', hfolder ▸ hassembled, hagree'⟩
  · rw [h.run] at hrun
    cases hrun

theorem Assembled.generate_eq_finish (h : Assembled icons roots output w folder name es v)
    (hopened : w.disk.makeFolders output = (w.disk, none)) :
    generate icons roots output w =
      finish output ((w.disk.absolute output).child name) es v := by
  have hmake : Run.makeFolders (.creatingOutput output) output w = .ok () w :=
    makeFolders_eq_ok_iff.mpr (by rw [hopened]; exact ⟨rfl, rfl⟩)
  rw [generate_eq_assemble, bind_of_ok hmake, bind_of_ok h.run]

/-- If nothing stands in the way of the swap, the output path does not pass the catalog. -/
theorem not_mem_trail_of_not_blocked {d : Disk} (hleads : d.Leads output folder)
    (h : ¬Blocked d output folder) : folder ++ [directoryName] ∉ d.trail output := by
  intro hpass
  by_cases hcatalog : d.found (folder ++ [directoryName]) = none
  · exact not_prefix_of_mem_stops hleads hcatalog (Disk.mem_trail_iff.mp hpass) (List.prefix_refl _)
  · exact h ⟨hcatalog, Or.inr (Or.inl hpass)⟩

theorem Assembled.found_exchanged {e : Disk} {aside : Place → Option Object}
    (h : Assembled icons roots output w folder name es v)
    (hexchanged : Exchanged v.disk e folder name aside) :
    e.found (folder ++ [directoryName]) = some .folder := by
  have hmoved := hexchanged.catalog []
  rwa [List.append_nil, List.append_nil, h.stage.found_staging h.agree] at hmoved

/-- A generation can be repeated only if what it has left beside the catalog is a directory, or
nothing, and the output path does not pass it. -/
theorem Assembled.removable_of_again {aside : Place → Option Object} {w'' : World}
    (h : Assembled icons roots output w folder name es v)
    (hexchanged : Exchanged v.disk w'.disk folder name aside)
    (hworking : ∀ name ∈ w.disk.working, Path.IsName name)
    (hagain : generate icons roots output w' = .ok g w'') :
    folder ++ [previousName] ∉ w.disk.trail output ∧
      (aside [] = none ∨ aside [] = some .folder) := by
  have hagree := h.agree_exchanged hexchanged
  have hgrows := Disk.grows_makeFolders w'.disk output
  obtain ⟨folder', _, _, _, hassembled, hblocked, -, -⟩ :=
    generate_ok_cases (by rwa [hagree.right]) hagain
  obtain rfl : folder' = folder := by
    rw [hassembled.stage.folder_eq, h.stage.folder_eq, Disk.target_congr hgrows.working,
      Disk.target_congr hagree.right]
  have hthere : (w'.disk.makeFolders output).1.found (folder' ++ [directoryName]) ≠ none := by
    have hfound := h.found_exchanged hexchanged
    rw [hgrows.found _ (by simp [hfound]), hfound]
    simp
  have hbeside := hexchanged.previous []
  rw [List.append_nil] at hbeside
  constructor
  · intro hpass
    refine hblocked ⟨hthere, Or.inr (Or.inr ?_)⟩
    rwa [Disk.trail_congr hgrows.working, Disk.trail_congr hagree.right]
  · cases hx : aside [] with
    | none =>
        exact Or.inl rfl
    | some x =>
        refine Or.inr (congrArg some ?_)
        by_contra hfolder
        refine hblocked ⟨hthere, Or.inl ⟨x, ?_, hfolder⟩⟩
        rw [hgrows.found _ (by simp [hbeside, hx]), hbeside, hx]

/-- If so, it is repeated with the same result and the same catalog. -/
theorem Assembled.again_of_removable {aside : Place → Option Object}
    (h : Assembled icons roots output w folder name es v)
    (hexchanged : Exchanged v.disk w'.disk folder name aside)
    (hworking : ∀ name ∈ w.disk.working, Path.IsName name)
    (himages : ∀ c ∈ mapped roots icons,
      w.disk.Avoids (Among folder [directoryName, previousName]) c.2)
    (hcatalog : folder ++ [directoryName] ∉ w.disk.trail output)
    (hpass : folder ++ [previousName] ∉ w.disk.trail output)
    (haside : aside [] = none ∨ aside [] = some .folder) :
    ∃ w'', generate icons roots output w' = .ok ⟨output.child directoryName, es⟩ w'' ∧
      ∀ q, w''.disk.found (folder ++ [directoryName] ++ q) =
        w'.disk.found (folder ++ [directoryName] ++ q) := by
  have hagree := h.agree_exchanged hexchanged
  have hway : w.disk.Avoids (Among folder [directoryName, previousName])
      (w.disk.absolute output) := by
    refine avoids_among h.stage.leads.of_absolute hworking fun other hother => ?_
    rcases List.mem_pair.mp hother with rfl | rfl
    · exact hcatalog
    · exact hpass
  have hleads := hagree.leads hway.of_absolute h.stage.leads.of_absolute
  have htext : output.text = [] ∨ Disk.textFault? output = none :=
    Disk.textFault?_of_child isName_directoryName h.beside.textCatalog
  obtain ⟨v', hassembled, hagree'⟩ := h.again hway himages hagree
  rw [hassembled.generate_eq_finish (Disk.makeFolders_of_leads hleads htext)]
  rcases hassembled.finish_cases (by rwa [hagree.right]) with
    ⟨-, u, hfinish, hexchanged'⟩ | ⟨hblocked, -⟩
  · refine ⟨u, hfinish, fun q => ?_⟩
    rw [hexchanged'.catalog, hexchanged.catalog, hagree'.found]
    rintro ⟨other, hother, hbelow⟩
    refine not_prefix_sibling ?_ hbelow
    rcases List.mem_pair.mp hother with rfl | rfl
    · exact h.stage.ne_directory.symm
    · exact h.stage.ne_previous.symm
  · have hbeside := hexchanged.previous []
    rw [List.append_nil] at hbeside
    rcases hblocked.inTheWay with ⟨x, hx, hfolder⟩ | hcatalog' | hpass'
    · rw [hbeside] at hx
      rcases haside with haside | haside
      · rw [haside] at hx
        cases hx
      · rw [haside] at hx
        exact absurd (Option.some_inj.mp hx).symm hfolder
    · rw [Disk.trail_congr hagree.right] at hcatalog'
      exact absurd hcatalog' hcatalog
    · rw [Disk.trail_congr hagree.right] at hpass'
      exact absurd hpass' hpass

end

/-- **A generation that has succeeded succeeds again, with the same result and the same catalog,
exactly if a directory or nothing was at the place of the catalog before, and in the latter case a
directory or nothing beside it as well**, at a place that the output path does not pass.  The images
are read along ways that do not pass these two places. -/
theorem generate_again_iff (hworking : ∀ name ∈ w.disk.working, Path.IsName name)
    (himages : ∀ c ∈ mapped roots icons,
      w.disk.Avoids (Among (w.disk.target output) [directoryName, previousName]) c.2)
    (h : generate icons roots output w = .ok g w') :
    (∃ w'', generate icons roots output w' = .ok g w'' ∧
        ∀ q, w''.disk.found (w.disk.target output ++ [directoryName] ++ q) =
          w'.disk.found (w.disk.target output ++ [directoryName] ++ q)) ↔
      w.disk.found (w.disk.target output ++ [directoryName]) = some .folder ∨
        w.disk.found (w.disk.target output ++ [directoryName]) = none ∧
          w.disk.target output ++ [previousName] ∉ w.disk.trail output ∧
            (w.disk.found (w.disk.target output ++ [previousName]) = none ∨
              w.disk.found (w.disk.target output ++ [previousName]) = some .folder) := by
  have hopened := (Disk.grows_makeFolders w.disk output).working
  obtain ⟨folder, name, es, v, hassembled, hblocked, rfl, hexchanged⟩ :=
    generate_ok_cases hworking h
  have hstage := hassembled.stage
  have hfolder : folder = w.disk.target output := by
    rw [hstage.folder_eq, Disk.target_congr hopened]
  -- What is found at the two places before and after the first generation.
  have hcatalog : folder ++ [directoryName] ∉ w.disk.trail output := by
    rw [← Disk.trail_congr hopened]
    exact not_mem_trail_of_not_blocked hstage.leads.of_absolute hblocked
  have hbefore : ∀ other, folder ++ [other] ∉ w.disk.trail output → name ≠ other →
      v.disk.found (folder ++ [other]) = w.disk.found (folder ++ [other]) := by
    intro other hpass hne
    rw [hstage.found_elsewhere hassembled.agree (not_prefix_beside folder hne)]
    exact ((Disk.agreeOff_makeFolders w.disk output).found _ fun hmade => hpass hmade.1).symm
  have hnames := hbefore directoryName hcatalog hstage.ne_directory
  rw [← hfolder] at himages ⊢
  -- What is beside the catalog is what the first generation has set aside there, or could not
  -- remove; so the second one fails if this was no directory.
  constructor
  · rintro ⟨w'', hagain, -⟩
    obtain ⟨hpass, haside⟩ := hassembled.removable_of_again hexchanged (by rwa [hopened]) hagain
    rw [Disk.trail_congr hopened] at hpass
    rw [leftAside, hnames, List.append_nil, List.append_nil] at haside
    cases hx : w.disk.found (folder ++ [directoryName]) with
    | none =>
        rw [hx] at haside
        rw [hbefore previousName hpass hstage.ne_previous] at haside
        exact Or.inr ⟨rfl, hpass, haside⟩
    | some x =>
        rw [hx, hnames, hx] at haside
        cases x with
        | folder =>
            exact Or.inl rfl
        | file data runnable =>
            simp at haside
        | device x =>
            simp at haside
  · intro hplaces
    have hpass : folder ++ [previousName] ∉ w.disk.trail output := by
      rcases hplaces with hdirectory | ⟨-, hpass, -⟩
      · intro hpass
        have hgrown := (Disk.grows_makeFolders w.disk output).found
          (folder ++ [directoryName]) (by simp [hdirectory])
        refine hblocked ⟨by simp [hgrown, hdirectory], Or.inr (Or.inr ?_)⟩
        rwa [Disk.trail_congr hopened]
      · exact hpass
    refine hassembled.again_of_removable hexchanged (by rwa [hopened]) ?_ ?_ ?_ ?_
    · exact fun c hc => (himages c hc).of_working hopened
    · rwa [Disk.trail_congr hopened]
    · rwa [Disk.trail_congr hopened]
    · rw [leftAside, hnames, List.append_nil]
      rcases hplaces with hdirectory | ⟨hnone, -, haside⟩
      · rw [hdirectory]
        exact Or.inl rfl
      · rw [hnone]
        dsimp only
        rwa [hbefore previousName hpass hstage.ne_previous]

/-- A disk with the image of an icon, and with some object at the place of the catalog. -/
def settledDisk (x : Object) : Disk :=
  ⟨[(["i".toList], .folder), (["i".toList, "regular".toList], .folder),
    (["i".toList, "regular".toList, "house.svg".toList], .file [60] false),
    (["o".toList], .folder), (["o".toList, directoryName], x)], []⟩

set_option maxRecDepth 4000 in
/-- A catalog that replaces a directory is generated again. -/
theorem generate_again_iff_house :
    ∃ g w' w'',
      generate ["ph.house".toList] ⟨some ⟨"i".toList⟩, none⟩ ⟨"o".toList⟩
          (.ofDisk (settledDisk .folder)) = .ok g w' ∧
        generate ["ph.house".toList] ⟨some ⟨"i".toList⟩, none⟩ ⟨"o".toList⟩ w' = .ok g w'' ∧
          ∀ q, w''.disk.found (["o".toList, directoryName] ++ q) =
            w'.disk.found (["o".toList, directoryName] ++ q) := by
  have hrun : succeedsWith
      (generate ["ph.house".toList] ⟨some ⟨"i".toList⟩, none⟩ ⟨"o".toList⟩)
      (.ofDisk (settledDisk .folder)) (fun _ _ => true) = true := by decide +kernel
  obtain ⟨g, w', h, -⟩ := exists_ok_of_succeedsWith hrun
  have hworking : ∀ name ∈ (World.ofDisk (settledDisk .folder)).disk.working,
      Path.IsName name := by
    intro name hname
    cases hname
  have htarget : (World.ofDisk (settledDisk .folder)).disk.target ⟨"o".toList⟩ = ["o".toList] := by
    decide +kernel
  have himages : ∀ c ∈ mapped ⟨some ⟨"i".toList⟩, none⟩ ["ph.house".toList],
      (World.ofDisk (settledDisk .folder)).disk.Avoids
        (Among ((World.ofDisk (settledDisk .folder)).disk.target ⟨"o".toList⟩)
          [directoryName, previousName]) c.2 := by
    have hways : ∀ c ∈ mapped ⟨some ⟨"i".toList⟩, none⟩ ["ph.house".toList],
        ∀ r ∈ (settledDisk .folder).trail c.2, ∀ name ∈ [directoryName, previousName],
          ¬["o".toList] ++ [name] <+: r := by decide +kernel
    rw [htarget]
    rintro c hc r hr ⟨name, hname, hbelow⟩
    exact hways c hc r hr name hname hbelow
  have hagain := (generate_again_iff hworking himages h).mpr (Or.inl (by decide +kernel))
  rw [htarget] at hagain
  obtain ⟨w'', hagain, hsame⟩ := hagain
  exact ⟨g, w', w'', h, hagain, hsame⟩

set_option maxRecDepth 4000 in
/-- A catalog that replaces a plain file cannot be generated again: the file stays beside it. -/
theorem generate_again_plain :
    ∃ g w' f w'',
      generate ["ph.house".toList] ⟨some ⟨"i".toList⟩, none⟩ ⟨"o".toList⟩
          (.ofDisk (settledDisk (.file [111] false))) = .ok g w' ∧
        generate ["ph.house".toList] ⟨some ⟨"i".toList⟩, none⟩ ⟨"o".toList⟩ w' = .error f w'' := by
  have hrun : succeedsWith
      (generate ["ph.house".toList] ⟨some ⟨"i".toList⟩, none⟩ ⟨"o".toList⟩)
      (.ofDisk (settledDisk (.file [111] false)))
      (fun _ w' => failsWhere
        (generate ["ph.house".toList] ⟨some ⟨"i".toList⟩, none⟩ ⟨"o".toList⟩) w'
        (fun _ _ => true)) = true := by decide +kernel
  obtain ⟨g, w', h, htest⟩ := exists_ok_of_succeedsWith hrun
  obtain ⟨f, w'', hfail, -⟩ := exists_error_of_failsWhere htest
  exact ⟨g, w', f, w'', h, hfail⟩

end Catalog
end IconAssets
