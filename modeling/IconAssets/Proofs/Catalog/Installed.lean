import IconAssets.Lookup
import IconAssets.Proofs.Catalog.Generation

/-!
# Catalogs that are in place

A catalog is in place if its layout is found where its path leads, and if the names of its
directories and images can be followed.  Everything in it is then read by its path, unless this is
too long.

* `Installed`: a catalog in place;
* `generate_installed`: a generation puts a catalog in place;
* `Installed.found_image`, `Installed.found_contents`: what is found in its image sets.
-/

namespace IconAssets
namespace Catalog

/-- The directory and the image of an item have different names, which can be followed. -/
structure Item.Sound (x : Item) : Prop where
  isName_directory : Path.IsName x.directory
  short_directory : Disk.isTooLong x.directory = false
  isName_filename : Path.IsName x.filename
  short_filename : Disk.isTooLong x.filename = false
  filename_ne : x.filename ≠ contentsName

/-- A catalog with the given items is in place in the output directory. -/
structure Installed (d : Disk) (output : Path) (folder : Place) (items : List Item) : Prop where
  leads : d.Leads output folder
  text : Disk.textFault? (output.child directoryName) = none
  found : ∀ q, d.found (folder ++ [directoryName] ++ q) = (layout items).lookup q
  names : (items.map Item.assetName).Nodup
  sound : ∀ x ∈ items, x.Sound

/-- An image that can be read has a name that can be followed, and so has its directory. -/
theorem sound_of_isItem {d : Disk} {roots : Roots} {icons : List Text} {c : Identifier × Path}
    {x : Item} (hicons : ∀ raw ∈ icons, '/' ∉ raw) (hc : c ∈ mapped roots icons)
    (h : IsItem d c x) : x.Sound := by
  obtain ⟨raw, hraw, hparse, root, -, hsource⟩ := mem_mapped hc
  have hicon := Identifier.slash_not_mem_baseName hparse (hicons raw hraw)
  have hname := Image.isName_fileName hicon
  have hdirectory : x.directory = imagesetName c.1.assetName := by
    rw [Item.directory, h.assetName]
  have hfilename : x.filename = Image.fileName c.1 := by
    have hlast := h.filename
    rw [hsource, Image.fileName?_below root hicon] at hlast
    exact (Option.some_inj.mp hlast).symm
  obtain ⟨data, hdata, -⟩ := h.data
  obtain ⟨q, hq⟩ := Disk.resolve_of_readFile hdata
  obtain ⟨front, hfront⟩ := Image.exists_below_eq_child root c.1
  rw [hsource, hfront] at hq
  have hlong := ((Disk.resolve_child_eq_ok_iff hname).mp hq).2.1
  constructor
  · rw [hdirectory]
    exact isName_imagesetName (Identifier.slash_not_mem_assetName hicon)
  · exact h.short
  · rw [hfilename]
    exact hname
  · rw [hfilename]
    exact hlong
  · rw [hfilename]
    exact Image.fileName_ne_contentsName c.1

/-- A generation that succeeds puts the catalog of the chosen icons in place. -/
theorem generate_installed {roots : Roots} {icons : List Text} {output : Path} {w w' : World}
    {g : Generated} (hicons : ∀ raw ∈ icons, '/' ∉ raw)
    (h : generate icons roots output w = .ok g w') :
    ∃ items folder,
      List.Forall₂ (IsItem (w.disk.makeFolders output).1) (chosen roots icons) items ∧
        g = ⟨output.child directoryName, items.map (Item.entry (output.child directoryName))⟩ ∧
          Installed w'.disk output folder items := by
  obtain ⟨items, folder, hitems, rfl, htext, -, hleads, hfound⟩ := generate_ok hicons h
  have hnames : (items.map Item.assetName).Nodup := by
    rw [map_assetName_of_isItem hitems]
    exact nodup_map_firstsBy _
  refine ⟨items, folder, hitems, rfl, hleads, htext, hfound, hnames, fun x hx => ?_⟩
  obtain ⟨c, hc, hitem⟩ := exists_icon_of_mem hitems hx
  exact sound_of_isItem hicons (mem_firstsBy hc) hitem

theorem lookup_of_mem {objects : List (Place × Object)} {q : Place} {x : Object}
    (hnodup : (objects.map Prod.fst).Nodup) (h : (q, x) ∈ objects) :
    objects.lookup q = some x := by
  obtain ⟨before, behind, rfl⟩ := List.append_of_mem h
  refine List.lookup_eq_some_iff.mpr ⟨before, behind, rfl, fun e he => ?_⟩
  rw [bne_iff_ne]
  rintro rfl
  rw [List.map_append, List.map_cons, List.nodup_append] at hnodup
  exact hnodup.2.2 e.1 (List.mem_map_of_mem he) e.1 List.mem_cons_self rfl

namespace Installed

variable {d : Disk} {output : Path} {folder : Place} {items : List Item} {x : Item}

/-- Each object of the catalog is found at its place. -/
theorem found_of_mem (h : Installed d output folder items) {q : Place} {y : Object}
    (hq : (q, y) ∈ layout items) : d.found (folder ++ [directoryName] ++ q) = some y := by
  rw [h.found]
  exact lookup_of_mem (nodup_places_layout h.names fun x hx => (h.sound x hx).filename_ne) hq

theorem leads_catalog (h : Installed d output folder items) :
    d.Leads (output.child directoryName) (folder ++ [directoryName]) := by
  have htop := h.found_of_mem (mem_layout_iff.mpr (Or.inl rfl))
  rw [List.append_nil] at htop
  exact (Disk.leads_child_iff isName_directoryName).mpr
    ⟨by decide, folder, h.leads, rfl, htop⟩

theorem isFolder_catalog (h : Installed d output folder items) :
    d.isFolder (output.child directoryName) = true := by
  rw [Disk.isFolder_iff, Disk.foundAt_child isName_directoryName h.leads h.text (by decide)]
  exact h.leads_catalog.found

theorem leads_directory (h : Installed d output folder items) (hx : x ∈ items) :
    d.Leads ((output.child directoryName).child x.directory)
      (folder ++ [directoryName] ++ [x.directory]) := by
  have hsound := h.sound x hx
  exact (Disk.leads_child_iff hsound.isName_directory).mpr
    ⟨hsound.short_directory, _, h.leads_catalog, rfl,
    h.found_of_mem (mem_layout_iff.mpr (Or.inr (Or.inl ⟨x, hx, by simp [Item.objects]⟩)))⟩

theorem found_image (h : Installed d output folder items) (hx : x ∈ items) :
    d.found (folder ++ [directoryName] ++ [x.directory] ++ [x.filename]) =
      some (.file x.data false) := by
  rw [List.append_assoc _ [x.directory]]
  exact h.found_of_mem (mem_layout_iff.mpr (Or.inr (Or.inl ⟨x, hx, by simp [Item.objects]⟩)))

theorem found_contents (h : Installed d output folder items) (hx : x ∈ items) :
    d.found (folder ++ [directoryName] ++ [x.directory] ++ [contentsName]) =
      some (.file x.contents false) := by
  rw [List.append_assoc _ [x.directory]]
  exact h.found_of_mem (mem_layout_iff.mpr (Or.inr (Or.inl ⟨x, hx, by simp [Item.objects]⟩)))

end Installed

end Catalog
end IconAssets
