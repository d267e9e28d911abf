import IconAssets.Proofs.Catalog.StagingName
import IconAssets.Proofs.Catalog.Swap
import IconAssets.Proofs.Catalog.Writing

/-!
# Generated catalogs

A catalog that has been generated holds exactly its layout, whatever was on the disk before.  The
staging directory has a name that occurs on no way to an image or to the output directory, so
nothing is read from it and the ways stay open.

* `staysAway_of_mem_mapped`: images are read away from the staging directory;
* `generate_ok`: what is found at the place of the catalog;
* `generate_exact`: the catalog and what is announced.
-/

namespace IconAssets

/-- What is at a place counted from the object that a path names. -/
def Disk.treeAt (d : Disk) (p : Path) (q : Place) : Option Object :=
  match d.resolve p with
  | .error _ => none
  | .ok place => d.lookup (place ++ q)

/-- What is found and is no device is there as it is found. -/
theorem Disk.lookup_eq_of_found {d : Disk} {p : Place} {x : Option Object} (h : d.found p = x)
    (hx : ∀ device, x ≠ some (.device device)) : d.lookup p = x := by
  cases x with
  | none =>
      exact found_eq_none_iff.mp h
  | some x =>
      cases x with
      | folder =>
          exact found_eq_folder_iff.mp h
      | file data runnable =>
          exact found_eq_file_iff.mp h
      | device x =>
          exact absurd rfl (hx x)

namespace Catalog

variable {roots : Roots} {icons : List Text} {output : Path} {w w' : World}

theorem freshName_not_mem_pieces {d : Disk} {t : Text} (ht : t ∈ textsInUse d roots output icons) :
    freshName (namesInUse d roots output icons) ∉ Text.pieces '/' t := fun h =>
  freshName_not_mem _ (List.mem_append_right _ (List.mem_flatMap.mpr ⟨t, ht, h⟩))

/-- A way that avoids a name in its pieces and in the working folder stays away from a place of this
name. -/
theorem not_prefix_of_not_mem {d : Disk} {p : Path} {pieces : List Text} {folder r : Place}
    {name : Text} (hworking : name ∉ Text.pieces '/' (Text.glue '/' d.working))
    (hpieces : name ∉ pieces) (hr : r ∈ Disk.stops (d.start p) pieces) :
    ¬folder ++ [name] <+: r := by
  intro hbelow
  have hname : name ∈ r := hbelow.subset (by simp)
  rcases Disk.mem_of_mem_stops_start hr hname with h | h
  · exact hworking h
  · exact hpieces h

/-- The images of icons are read away from the staging directory. -/
theorem staysAway_of_mem_mapped {d : Disk} {folder : Place} {c : Identifier × Path}
    (hicons : ∀ raw ∈ icons, '/' ∉ raw) (hc : c ∈ mapped roots icons) :
    StaysAway d (folder ++ [freshName (namesInUse d roots output icons)]) c.2 := by
  obtain ⟨raw, hraw, hparse, root, hroot, hsource⟩ := mem_mapped hc
  have hicon := Identifier.slash_not_mem_baseName hparse (hicons raw hraw)
  intro r hr
  refine not_prefix_of_not_mem (freshName_not_mem_pieces (by simp [textsInUse])) ?_ hr
  rw [hsource]
  intro hmem
  rcases Image.mem_pieces_below hicon hmem with h | ⟨weight, h⟩ | h
  · refine freshName_not_mem_pieces ?_ h
    cases hprovider : c.1.provider with
    | phosphor =>
        rw [hprovider] at hroot
        have hphosphor : roots.phosphor = some root := hroot
        simp [textsInUse, hphosphor]
    | ionicons =>
        rw [hprovider] at hroot
        have hionicons : roots.ionicons = some root := hroot
        simp [textsInUse, hionicons]
  · refine stagingName_ne_of_head ?_ _ h
    cases weight <;> decide
  · exact stagingName_ne_of_last (Image.getLast?_fileName c.1) (by decide) _ h

/-- A staging directory that is made is a new folder with a name that is not in use. -/
theorem makeStaging_ok {staging : Path} (h : makeStaging roots output icons w = .ok staging w') :
    ∃ d,
      staging =
          (w.disk.absolute output).child (freshName (namesInUse w.disk roots output icons)) ∧
        w.disk.makeFolder staging = .ok d ∧ w' = { w with disk := d } := by
  unfold makeStaging at h
  rw [Run.disk_bind] at h
  cases hmake : w.disk.makeFolder
      ((w.disk.absolute output).child (freshName (namesInUse w.disk roots output icons))) with
  | error fault =>
      rw [hmake] at h
      exact absurd h Run.fail_ne_ok
  | ok d =>
      rw [hmake] at h
      obtain ⟨_, _, hmodify, h⟩ := Run.bind_eq_ok_iff.mp h
      obtain rfl := Run.modify_eq_ok_iff.mp hmodify
      obtain ⟨rfl, rfl⟩ := Run.pure_eq_ok_iff.mp h
      exact ⟨d, rfl, hmake, rfl⟩

/-- A catalog that is put together in a new folder under a name that is not in use, and then swapped
into place, holds the layout of the chosen icons. -/
theorem writeAll_swapIntoPlace_ok {base d : Disk} {name : Text} {es : List Entry} {v : World}
    {u : Unit} (hicons : ∀ raw ∈ icons, '/' ∉ raw) (hname : Path.IsName name)
    (hcatalog : name ≠ directoryName) (hprevious : name ≠ previousName)
    (hworking : name ∉ Text.pieces '/' (Text.glue '/' base.working))
    (houtput : name ∉ Text.pieces '/' output.text)
    (haway : ∀ folder, ∀ c ∈ mapped roots icons, StaysAway base (folder ++ [name]) c.2)
    (hmake : base.makeFolder ((base.absolute output).child name) = .ok d) (hw : w.disk = d)
    (hall : writeAll roots ((base.absolute output).child name) (output.child directoryName) icons
      w = .ok es v)
    (hswap : swapIntoPlace ((base.absolute output).child name) (output.child directoryName) v =
      .ok u w') :
    ∃ items folder,
      List.Forall₂ (IsItem base) (chosen roots icons) items ∧
        es = items.map (Item.entry (output.child directoryName)) ∧
          Disk.textFault? (output.child directoryName) = none ∧
            w'.disk.working = base.working ∧ w'.disk.Leads output folder ∧
              ∀ q, w'.disk.found (folder ++ [directoryName] ++ q) = (layout items).lookup q := by
  obtain ⟨-, hlong, folder, hbase, hfree, hd⟩ :=
    (Disk.makeFolder_child_eq_ok_iff hname).mp hmake
  rw [hd] at hw
  -- The staging directory is empty at first and holds the layout in the end.
  have hempty := Disk.holds_put_folder hbase.found hfree
  have hstaged := (Disk.leads_child_iff hname).mpr
    ⟨hlong, folder, (Disk.grows_put hbase.found hfree .folder).leads hbase, rfl,
      hempty.found_here⟩
  rw [← hw] at hempty hstaged
  obtain ⟨items, hitems, hes, hheld, -⟩ := writeAll_ok hicons (haway folder) hempty hstaged hall
  -- The way to the output directory does not pass through it.
  have hfresh : ∀ r ∈ Disk.stops (base.start output) output.moves, ¬folder ++ [name] <+: r :=
    fun r hr => not_prefix_of_not_mem hworking (fun h => houtput (List.mem_of_mem_filter h)) hr
  have hstart := Disk.start_congr hheld.working
  have hleads : v.disk.Leads output folder :=
    hbase.of_absolute.of_agree (hstart output) fun r hr _ => hheld.found_elsewhere (hfresh r hr)
  obtain ⟨htext, hsame, hplace, hmoved⟩ := swapIntoPlace_ok hname hcatalog hprevious hleads
    (by rw [hstart]; exact hbase.eq_travel) (by rw [hstart]; exact hfresh) hswap
  refine ⟨items, folder, hitems, hes, htext, hsame.trans hheld.working, hplace, fun q => ?_⟩
  rw [hmoved, hheld.found_append]

/-- After a generation that succeeds, the layout of the chosen icons is found at the place of the
catalog. -/
theorem generate_ok {g : Generated} (hicons : ∀ raw ∈ icons, '/' ∉ raw)
    (h : generate icons roots output w = .ok g w') :
    ∃ items folder,
      List.Forall₂ (IsItem (w.disk.makeFolders output).1) (chosen roots icons) items ∧
        g = ⟨output.child directoryName,
            items.map (Item.entry (output.child directoryName))⟩ ∧
          Disk.textFault? (output.child directoryName) = none ∧
            w'.disk.working = w.disk.working ∧ w'.disk.Leads output folder ∧
              ∀ q, w'.disk.found (folder ++ [directoryName] ++ q) = (layout items).lookup q := by
  unfold generate at h
  simp only [Run.bind_eq_ok_iff, Run.makeFolders_eq_ok_iff, Run.onFailure_eq_ok_iff,
    Run.report_eq_ok_iff, Run.pure_eq_ok_iff] at h
  obtain ⟨_, _, ⟨-, rfl⟩, staging, _, hstaging, es, v, hall, _, v', hswap, _, _, rfl, rfl, rfl⟩ := h
  obtain ⟨d, rfl, hmake, rfl⟩ := makeStaging_ok hstaging
  obtain ⟨items, folder, hitems, hes, htext, hworking, hleads, hfound⟩ :=
    writeAll_swapIntoPlace_ok hicons (isName_stagingName _)
      (stagingName_ne_of_head (by decide) _) (stagingName_ne_of_head (by decide) _)
      (freshName_not_mem_pieces (by simp [textsInUse]))
      (freshName_not_mem_pieces (by simp [textsInUse]))
      (fun _ c hc => staysAway_of_mem_mapped hicons hc) hmake rfl hall hswap
  refine ⟨items, folder, hitems, by rw [hes], htext, ?_, hleads, hfound⟩
  exact hworking.trans (Disk.grows_makeFolders w.disk output).working

/-- The path of an icon without slashes ends in the name of its image. -/
theorem fileName?_of_mem_mapped {c : Identifier × Path} (hicons : ∀ raw ∈ icons, '/' ∉ raw)
    (hc : c ∈ mapped roots icons) : c.2.fileName? = some (Image.fileName c.1) := by
  obtain ⟨raw, hraw, hparse, root, -, hsource⟩ := mem_mapped hc
  rw [hsource]
  exact Image.fileName?_below root (Identifier.slash_not_mem_baseName hparse (hicons raw hraw))

/-- The items of the chosen icons have no image with the name of a contents document. -/
theorem filename_ne_of_isItem {d : Disk} {items : List Item}
    (hicons : ∀ raw ∈ icons, '/' ∉ raw)
    (h : List.Forall₂ (IsItem d) (chosen roots icons) items) :
    ∀ x ∈ items, x.filename ≠ contentsName := by
  intro x hx
  obtain ⟨c, hc, hitem⟩ := exists_icon_of_mem h hx
  have hfilename := hitem.filename
  rw [fileName?_of_mem_mapped hicons (mem_firstsBy hc)] at hfilename
  rw [← Option.some_inj.mp hfilename]
  exact Image.fileName_ne_contentsName c.1

/-- A disk with the images of two icons that share an asset name. -/
def housesDisk : Disk :=
  ⟨[(["i".toList], .folder), (["i".toList, "fill".toList], .folder),
    (["i".toList, "fill".toList, "house-fill.svg".toList], .file [70] false),
    (["i".toList, "regular".toList], .folder),
    (["i".toList, "regular".toList, "house.fill.svg".toList], .file [82] false)], []⟩

end Catalog
end IconAssets
