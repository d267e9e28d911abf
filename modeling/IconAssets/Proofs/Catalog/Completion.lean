import IconAssets.Proofs.Catalog.Passing
import IconAssets.Proofs.Disk.Opening

/-!
# Catalogs that can be put together

In an output directory that is there, a catalog is put together as soon as the images of its icons
can be read and no name and no path in the staging directory is too long.  What is written is never
in its own way, since all of it is new in the staging directory.

* `exists_makeFolders_ok`, `exists_writeFile_ok`: what can be made in the staging directory;
* `Writable`: what the image set of an icon needs;
* `exists_writeEntry_ok`, `exists_writeEntries_ok`, `exists_writeAll_ok`: a catalog is complete if
  all of its image sets can be written;
* `exists_makeStaging_ok`, `exists_assemble_ok`: the same with the staging directory.
-/

namespace IconAssets
namespace Catalog

open Run

section

variable {roots : Roots} {base : Disk} {here : Place} {staging catalog p : Path} {w : World}

/-- The paths of the files of an image set in a staging directory. -/
def stagedFiles (staging : Path) (icon : Identifier) : List Path :=
  [(staging.child (imagesetName icon.assetName)).child (Image.fileName icon),
    (staging.child (imagesetName icon.assetName)).child contentsName]

/-- The image of an icon can be read, and its image set can be written. -/
structure Writable (base : Disk) (staging : Path) (c : Identifier × Path) : Prop where
  image : ∃ data, base.readFile c.2 = .ok data
  shortDirectory : Disk.isTooLong (imagesetName c.1.assetName) = false
  shortFile : Disk.isTooLong (Image.fileName c.1) = false
  text : ∀ p ∈ stagedFiles staging c.1, Disk.textFault? p = none

section

variable {objects : List (Place × Object)} {q : Place} {name : Text} {s : Step}
  (hname : Path.IsName name) (hleads : w.disk.Leads p (here ++ q))
  (hholds : w.disk.Holds base here objects) (hfolder : objects.lookup q = some .folder)
  (hnone : objects.lookup (q ++ [name]) = none) (htext : Disk.textFault? (p.child name) = none)
  (hshort : Disk.isTooLong name = false)

include hname hleads hholds hfolder hnone htext hshort

/-- A folder that is not held yet is made under a name in one that is held. -/
theorem exists_makeFolders_ok :
    ∃ v, Run.makeFolders s (p.child name) w = .ok () v ∧
      v.disk.Holds base here (objects ++ [(q ++ [name], .folder)]) ∧
        v.disk.Leads (p.child name) (here ++ (q ++ [name])) := by
  have hfree : w.disk.found (here ++ q ++ [name]) = none := by
    rw [List.append_assoc, hholds.found_append, hnone]
  have hmade := Disk.makeFolders_child_ok hname hleads hfree htext hshort
  exact ⟨_, makeFolders_eq_ok_iff.mpr ⟨hmade, rfl⟩,
    hholds.makeFolders hleads hname hfolder hnone hmade⟩

/-- A file that is not held yet is written under a name in a folder that is held. -/
theorem exists_writeFile_ok (data : Bytes) :
    ∃ v, change s (fun d => d.writeFile (p.child name) data) w = .ok () v ∧
      v.disk.Holds base here (objects ++ [(q ++ [name], .file data false)]) ∧
        w.disk.Grows v.disk := by
  have hfree : w.disk.found (here ++ q ++ [name]) = none := by
    rw [List.append_assoc, hholds.found_append, hnone]
  obtain ⟨d, hd⟩ := Disk.exists_writeFile_child_ok hname hleads hfree htext hshort data
  obtain ⟨hheld, hgrows⟩ := hholds.writeFile hleads hname hfolder hnone hd
  exact ⟨w.withDisk d, change_eq_ok_iff.mpr ⟨d, hd, rfl⟩,
    hheld.of_found (World.working_withDisk w d) (World.found_withDisk w d),
    World.grows_withDisk hgrows w⟩

end

/-- An image set that can be written is written. -/
theorem exists_writeEntry_ok {items : List Item} {icon : Identifier} {root : Path}
    (hicon : '/' ∉ icon.baseName) (hnew : ∀ x ∈ items, x.assetName ≠ icon.assetName)
    (haway : StaysAway base here (Image.below root icon))
    (hholds : w.disk.Holds base here (imageSets items)) (hleads : w.disk.Leads staging here)
    (h : Writable base staging (icon, Image.below root icon)) :
    ∃ e w', writeEntry staging catalog icon (Image.below root icon) w = .ok e w' := by
  have hdirectory := isName_imagesetName (Identifier.slash_not_mem_assetName hicon)
  have hne : contentsName ≠ Image.fileName icon := (Image.fileName_ne_contentsName icon).symm
  have habsent : ∀ rest, (imageSets items).lookup (imagesetName icon.assetName :: rest) = none :=
    lookup_imageSets_eq_none fun x hx heq => hnew x hx (imagesetName_injective heq)
  have hcontents := h.text _ (List.mem_cons_of_mem _ List.mem_cons_self)
  -- The directory of the image set.
  have hstart : w.disk.Leads staging (here ++ []) := by rwa [List.append_nil]
  obtain ⟨v₁, hfolder, hheld₁, hleads₁⟩ := exists_makeFolders_ok
    hdirectory hstart hholds (lookup_imageSets_nil items) (habsent [])
    ((Disk.textFault?_of_child isName_contentsName hcontents).resolve_left
      (Disk.text_child_ne_nil _ hdirectory)) h.shortDirectory
  -- The image, which is read elsewhere.
  obtain ⟨data, hdata⟩ := h.image
  rw [← hheld₁.readFile haway] at hdata
  obtain ⟨v₂, himage, hheld₂, hgrows₂⟩ := exists_writeFile_ok (Image.isName_fileName hicon) hleads₁
    hheld₁ (by simp [List.lookup_append, habsent]) (by simp [List.lookup_append, habsent])
    (h.text _ List.mem_cons_self) h.shortFile (imageData icon data)
  -- The contents document.
  obtain ⟨v₃, hdocument, -⟩ := exists_writeFile_ok isName_contentsName (hgrows₂.leads hleads₁)
    hheld₂ (by simp [List.lookup_append, habsent]) (by simp [List.lookup_append, habsent, hne])
    hcontents (by decide) (Utf8.encode (EntryContents.templateImage (Image.fileName icon)).print)
  unfold writeEntry writeContents
  rw [Image.fileName?_below root hicon]
  dsimp only
  rw [bind_of_ok hfolder, bind_of_ok (read_eq_ok_iff.mpr ⟨hdata, rfl⟩), bind_of_ok himage,
    bind_of_ok hdocument]
  exact ⟨_, _, rfl⟩

/-- The image sets of icons are written if those of the chosen ones can be. -/
theorem exists_writeEntries_ok {items : List Item} {written icons : List Text}
    (hicons : ∀ raw ∈ icons, '/' ∉ raw)
    (hwritten : ∀ a, a ∈ written ↔ ∃ x ∈ items, x.assetName = a)
    (haway : ∀ c ∈ mapped roots icons, StaysAway base here c.2)
    (hholds : w.disk.Holds base here (imageSets items)) (hleads : w.disk.Leads staging here)
    (h : ∀ c ∈ (chosen roots icons).filter (fun c => c.1.assetName ∉ written),
      Writable base staging c) :
    ∃ es w', writeEntries roots staging catalog written icons w = .ok es w' := by
  induction icons generalizing w items written with
  | nil =>
      exact ⟨[], w, rfl⟩
  | cons raw icons ih =>
      have hrest : ∀ r ∈ icons, '/' ∉ r := fun r hr => hicons r (List.mem_cons_of_mem _ hr)
      have hmore : ∀ c ∈ mapped roots icons, StaysAway base here c.2 := fun c hc =>
        haway c (mapped_subset_cons raw icons hc)
      cases next_cases roots staging catalog written raw icons with
      | passedOver e _ hchosen hrun =>
          rw [hchosen] at h
          rw [hrun]
          obtain ⟨es, w', hes⟩ := @ih { w with events := w.events ++ [e] } items written hrest hwritten
            hmore hholds hleads h
          exact ⟨es, w', report_bind_eq_ok_iff.mpr hes⟩
      | @written icon source hparse hpath hunmet hchosen hrun =>
          have hhere := haway _ (mem_mapped_of_path List.mem_cons_self hparse hpath)
          rw [hchosen] at h
          rw [hrun]
          obtain ⟨root, -, rfl⟩ := Option.map_eq_some_iff.mp hpath
          have hicon := Identifier.slash_not_mem_baseName hparse (hicons raw List.mem_cons_self)
          have hnew : ∀ x ∈ items, x.assetName ≠ icon.assetName := fun x hx heq =>
            hunmet ((hwritten _).mpr ⟨x, hx, heq⟩)
          obtain ⟨e, v, hentry⟩ :=
            exists_writeEntry_ok hicon hnew hhere hholds hleads (h _ List.mem_cons_self)
          obtain ⟨x, hx, -, hheld, hled⟩ := writeEntry_ok hicon hnew hhere hholds hleads hentry
          have hwritten' := @exists_assetName_append items x written hwritten
          rw [hx.assetName] at hwritten'
          obtain ⟨es, w', hes⟩ := ih hrest hwritten' hmore hheld hled fun c hc =>
            h c (List.mem_cons_of_mem _ hc)
          exact ⟨_, w', bind_eq_ok_iff.mpr
            ⟨e, v, hentry, bind_pure_eq_ok_iff.mpr ⟨es, hes, rfl⟩⟩⟩

/-- A catalog is put together if the image sets of the chosen icons and the contents document can be
written. -/
theorem exists_writeAll_ok {icons : List Text} (hicons : ∀ raw ∈ icons, '/' ∉ raw)
    (haway : ∀ c ∈ mapped roots icons, StaysAway base here c.2)
    (hholds : w.disk.Holds base here [([], .folder)]) (hleads : w.disk.Leads staging here)
    (htext : Disk.textFault? (staging.child contentsName) = none)
    (h : ∀ c ∈ chosen roots icons, Writable base staging c) :
    ∃ es w', writeAll roots staging catalog icons w = .ok es w' := by
  obtain ⟨es, v, hentries⟩ := @exists_writeEntries_ok roots base here staging catalog w [] [] icons
    hicons (by simp) haway hholds hleads fun c hc => h c (List.mem_of_mem_filter hc)
  obtain ⟨items, -, -, hheld, hled⟩ := @writeEntries_ok roots base here staging catalog w v [] []
    icons es hentries hicons (by simp) haway hholds hleads
  have hstart : v.disk.Leads staging (here ++ []) := by rwa [List.append_nil]
  obtain ⟨w', hcontents, -⟩ := exists_writeFile_ok isName_contentsName hstart hheld
    (lookup_imageSets_nil _)
    (lookup_imageSets_eq_none (fun x _ => imagesetName_ne_contentsName x.assetName) []) htext
    (by decide) (Utf8.encode RootContents.standard.print)
  exact ⟨es, w', bind_eq_ok_iff.mpr
    ⟨es, v, hentries, bind_pure_eq_ok_iff.mpr ⟨(), hcontents, rfl⟩⟩⟩

end

variable {roots : Roots} {icons : List Text} {output : Path} {folder : Place} {w : World}

/-- The staging directory of a generation. -/
def stagingPath (d : Disk) (roots : Roots) (output : Path) (icons : List Text) : Path :=
  (d.absolute output).child (freshName (namesInUse d roots output icons))

/-- No name that is in use is chosen for a staging directory. -/
theorem found_freshName {d : Disk} (h : d.Leads (d.absolute output) folder) :
    d.found (folder ++ [freshName (namesInUse d roots output icons)]) = none := by
  by_contra hfound
  have hnames : namesIn d (d.absolute output) = d.children folder := by
    unfold namesIn Disk.follow
    rw [(Disk.leads_iff_walk.mp h).1]
  refine freshName_not_mem (namesInUse d roots output icons) (List.mem_append_left _ ?_)
  rw [hnames]
  exact Disk.mem_children_iff.mpr hfound

/-- A staging directory is made in an output directory that is there, unless its name or its path is
too long. -/
theorem exists_makeStaging_ok (hleads : w.disk.Leads (w.disk.absolute output) folder)
    (hshort : Disk.isTooLong (freshName (namesInUse w.disk roots output icons)) = false)
    (htext : Disk.textFault? (stagingPath w.disk roots output icons) = none) :
    ∃ v, makeStaging roots output icons w = .ok (stagingPath w.disk roots output icons) v ∧
      v.disk =
        w.disk.put (folder ++ [freshName (namesInUse w.disk roots output icons)]) .folder := by
  have hmake := (Disk.makeFolder_child_eq_ok_iff (isName_freshName _)).mpr
    ⟨htext, hshort, folder, hleads, found_freshName hleads, rfl⟩
  unfold makeStaging
  rw [disk_bind, hmake]
  exact ⟨_, rfl, rfl⟩

/-- A catalog is put together in an output directory that is there, if no name and no path is too
long. -/
theorem exists_assemble_ok (hicons : ∀ raw ∈ icons, '/' ∉ raw)
    (hleads : w.disk.Leads (w.disk.absolute output) folder)
    (hshort : Disk.isTooLong (freshName (namesInUse w.disk roots output icons)) = false)
    (htext : Disk.textFault? ((stagingPath w.disk roots output icons).child contentsName) = none)
    (h : ∀ c ∈ chosen roots icons, Writable w.disk (stagingPath w.disk roots output icons) c) :
    ∃ assembled v, assemble icons roots output w = .ok assembled v := by
  have hname := isName_freshName (namesInUse w.disk roots output icons)
  have hfree := @found_freshName roots icons output folder w.disk hleads
  have hholds := Disk.holds_put_folder hleads.found hfree
  have hstaged : (w.disk.put _ .folder).Leads (stagingPath w.disk roots output icons) _ :=
    (Disk.leads_child_iff hname).mpr ⟨hshort, folder,
      (Disk.grows_put hleads.found hfree .folder).leads hleads, rfl, hholds.found_here⟩
  obtain ⟨v, hmake, hdisk⟩ := exists_makeStaging_ok hleads hshort
    ((Disk.textFault?_of_child isName_contentsName htext).resolve_left
      (Disk.text_child_ne_nil _ hname))
  rw [← hdisk] at hholds hstaged
  obtain ⟨es, v', hall⟩ := @exists_writeAll_ok roots w.disk _ _ (output.child directoryName) v icons
    hicons (fun c hc => staysAway_of_mem_mapped hicons hc) hholds hstaged htext h
  refine ⟨(stagingPath w.disk roots output icons, es), v', ?_⟩
  unfold assemble
  rw [bind_of_ok hmake, bind_of_ok (onFailure_eq_ok_iff.mpr hall)]
  rfl

end Catalog
end IconAssets
