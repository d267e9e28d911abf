import IconAssets.Proofs.Lookup

/-!
# Catalogs as stores

A catalog that has been generated, taken as a store, has exactly the assets that were announced, and
for each of them the image is loaded.  What was in the catalog before is not found.

The image sets have been written below the staging directory, so their paths could be followed there.
The path of the catalog is longer by one byte if the output path is absolute, so it may be too long
to be followed although the catalog has been written.  If the output path is relative, the path of
the staging directory is no shorter, since that one is absolute.

* `Entry.Followed`: the paths of an image set can be followed;
* `writeEntries_followed`, `followed_of_generate_ok`: they can be while the catalog is put together;
* `Item.followed_of_staging`: they can be in the catalog, if this is not too long;
* `exists_item_of_contains`: an asset that is there is an item;
* `contains_generate_iff`: the catalog as a store.
-/

namespace IconAssets

namespace Catalog

open Run

/-- The paths of the files of an image set in a directory can be followed. -/
structure Entry.Followed (directory : Path) (e : Entry) : Prop where
  contents : Disk.textFault?
    ((directory.child (imagesetName e.assetName)).child contentsName) = none
  image : Disk.textFault? ((directory.child (imagesetName e.assetName)).child e.filename) = none

section

variable {roots : Roots} {icons : List Text} {staging catalog output : Path} {w w' : World}

theorem writeEntry_followed {icon : Identifier} {source : Path} {e : Entry}
    (h : writeEntry staging catalog icon source w = .ok e w') : e.Followed staging := by
  unfold writeEntry at h
  cases hfilename : source.fileName? with
  | none =>
      rw [hfilename] at h
      exact absurd h fail_ne_ok
  | some filename =>
      rw [hfilename] at h
      simp only [bind_eq_ok_iff, pure_eq_ok_iff] at h
      obtain ⟨_, _, -, data, _, -, _, _, himage, _, _, hcontents, rfl, rfl⟩ := h
      exact ⟨text_of_change hcontents, text_of_change himage⟩

theorem writeEntries_followed {written : List Text} {es : List Entry}
    (h : writeEntries roots staging catalog written icons w = .ok es w') :
    ∀ e ∈ es, e.Followed staging := by
  induction icons generalizing w written es with
  | nil =>
      obtain ⟨rfl, -⟩ := pure_eq_ok_iff.mp h
      exact fun e he => absurd he List.not_mem_nil
  | cons raw icons ih =>
      cases next_cases roots staging catalog written raw icons with
      | passedOver e _ _ hrun =>
          rw [hrun] at h
          exact ih (report_bind_eq_ok_iff.mp h)
      | written _ _ _ _ hrun =>
          rw [hrun] at h
          obtain ⟨first, v, hfirst, h⟩ := bind_eq_ok_iff.mp h
          obtain ⟨rest, hrest, rfl⟩ := bind_pure_eq_ok_iff.mp h
          intro e he
          rcases List.mem_cons.mp he with rfl | he
          · exact writeEntry_followed hfirst
          · exact ih hrest e he

/-- The paths of all image sets could be followed while the catalog was put together. -/
theorem followed_of_generate_ok {g : Generated} (h : generate icons roots output w = .ok g w') :
    ∀ e ∈ g.entries, e.Followed (((w.disk.makeFolders output).1.absolute output).child
      (freshName (namesInUse (w.disk.makeFolders output).1 roots output icons))) := by
  unfold generate at h
  simp only [bind_eq_ok_iff, onFailure_eq_ok_iff, pure_eq_ok_iff, makeFolders_eq_ok_iff] at h
  obtain ⟨_, _, ⟨-, rfl⟩, staging, _, hstaging, es, _, hall, _, _, -, _, _, -, rfl, -⟩ := h
  obtain ⟨d, rfl, -, -⟩ := makeStaging_ok hstaging
  unfold writeAll at hall
  obtain ⟨es', _, hentries, hall⟩ := bind_eq_ok_iff.mp hall
  obtain ⟨_, -, rfl⟩ := bind_pure_eq_ok_iff.mp hall
  exact writeEntries_followed hentries

/-- They were below a staging directory with some number. -/
theorem generate_followed {g : Generated} (h : generate icons roots output w = .ok g w') :
    ∃ d n, ∀ e ∈ g.entries, e.Followed ((Disk.absolute d output).child (stagingName n)) :=
  ⟨_, _, followed_of_generate_ok h⟩

end

section

variable {d : Disk} {output : Path} {n : Nat} {directory filename : Text}

/-- The text of the path of a file in an image set. -/
theorem text_file (p : Path) {name : Text} (hname : Path.IsName name)
    (hdirectory : Path.IsName directory) (hfilename : Path.IsName filename) :
    (((p.child name).child directory).child filename).text =
      p.slashed ++ (name ++ '/' :: (directory ++ '/' :: filename)) := by
  rw [Path.text_child _ hfilename, Path.slashed_child _ hdirectory, Path.slashed_child _ hname]
  simp

/-- A path in the catalog can be followed if the one in the staging directory can, as long as it is
not too long. -/
theorem textFault?_of_staged (hdirectory : Path.IsName directory) (hfilename : Path.IsName filename)
    (h : Disk.textFault?
      ((((d.absolute output).child (stagingName n)).child directory).child filename) = none)
    (hshort : output.isAbsolute = true → Disk.isPathTooLong
      (((output.child directoryName).child directory).child filename) = false) :
    Disk.textFault? (((output.child directoryName).child directory).child filename) = none := by
  obtain ⟨front, hfront, hlonger⟩ := Disk.slashed_absolute d output
  have hstaged := text_file (d.absolute output) (isName_stagingName n) hdirectory hfilename
  have hplaced := text_file output isName_directoryName hdirectory hfilename
  rw [hfront] at hstaged
  rw [Disk.textFault?_eq_none_iff] at h ⊢
  obtain ⟨hnul, -, hlength⟩ := h
  rw [hstaged] at hnul hlength
  refine ⟨?_, Disk.text_child_ne_nil _ hfilename, ?_⟩
  · rw [hplaced]
    have hdirectoryName : '\x00' ∉ directoryName := by decide
    simp only [List.mem_append, List.mem_cons, not_or] at hnul ⊢
    exact ⟨hnul.1.2, hdirectoryName, hnul.2.2⟩
  · cases habsolute : output.isAbsolute with
    | true =>
        have hfits := hshort habsolute
        unfold Disk.isPathTooLong at hfits
        exact Nat.not_lt.mp (of_decide_eq_false hfits)
    | false =>
        have hfrontLength := hlonger habsolute
        have hstagingLength := le_byteLength_stagingName n
        have hdirectoryLength : Text.byteLength directoryName = 23 := by decide
        rw [hplaced]
        simp only [Text.byteLength_append] at hlength ⊢
        omega

end

/-- The paths of an image set in the catalog can be followed if those in the staging directory could
be, as long as they are not too long. -/
theorem Item.followed_of_staging {d : Disk} {output : Path} {n : Nat} {x : Item} (hx : x.Sound)
    (h : (x.entry (output.child directoryName)).Followed
      ((d.absolute output).child (stagingName n)))
    (hshort : output.isAbsolute = true → ∀ name ∈ [contentsName, x.filename],
      Disk.isPathTooLong
        (((output.child directoryName).child x.directory).child name) = false) :
    (x.entry (output.child directoryName)).Followed (output.child directoryName) := by
  constructor
  · exact textFault?_of_staged hx.isName_directory isName_contentsName h.contents fun habsolute =>
      hshort habsolute _ List.mem_cons_self
  · exact textFault?_of_staged hx.isName_directory hx.isName_filename h.image fun habsolute =>
      hshort habsolute _ (List.mem_cons_of_mem _ List.mem_cons_self)

end Catalog

namespace Lookup

open Catalog

/-- An asset that is found in a catalog that is in place is one of its items. -/
theorem exists_item_of_contains {d : Disk} {output : Path} {folder : Place} {items : List Item}
    {assetName : Text} (h : Installed d output folder items) (hslash : '/' ∉ assetName)
    (hcontains : (Store.ofDisk d).contains (output.child directoryName) assetName = true) :
    ∃ x ∈ items, x.assetName = assetName := by
  obtain ⟨data, runnable, hfound⟩ := Disk.isFile_iff.mp hcontains
  obtain ⟨-, -, inside, hinside, -⟩ := Disk.foundAt_child_eq_some isName_contentsName hfound
  obtain ⟨-, top, htop, rfl, hdirectory⟩ :=
    (Disk.leads_child_iff (isName_imagesetName hslash)).mp hinside
  obtain rfl := htop.unique h.leads_catalog
  -- The directory of the asset is found in the catalog, so it is listed in its layout.
  rw [h.found] at hdirectory
  obtain ⟨before, behind, hlayout, -⟩ := List.lookup_eq_some_iff.mp hdirectory
  have hmem : ([imagesetName assetName], Object.folder) ∈ layout items := by
    rw [hlayout]
    simp
  rcases mem_layout_iff.mp hmem with htop | ⟨x, hx, hobject⟩ | hcontents
  · cases htop
  · have hplace := Item.mem_places_iff.mp (List.mem_map_of_mem hobject)
    rcases hplace with hplace | hplace | hplace
    · exact ⟨x, hx, (imagesetName_injective (List.cons.inj hplace).1).symm⟩
    · simp at hplace
    · simp at hplace
  · simp at hcontents

/-- **A catalog that has been generated, taken as a store, has exactly the assets that were
announced**, and for each of them the image is loaded that was announced.  Nothing of a former
catalog is found.  An absolute output path must leave room for the paths in the catalog. -/
theorem contains_generate_iff {roots : Roots} {icons : List Text} {output : Path} {w w' : World}
    {g : Generated} (hicons : ∀ raw ∈ icons, '/' ∉ raw)
    (h : generate icons roots output w = .ok g w') {raw : Text} {icon : Identifier}
    (hraw : '/' ∉ raw) (hparse : Identifier.parse raw = some icon)
    (hshort : output.isAbsolute = true → ∀ e ∈ g.entries, e.assetName = icon.assetName →
      ∀ name ∈ [contentsName, e.filename],
        Disk.isPathTooLong (e.directory.child name) = false) :
    ((Store.ofDisk w'.disk).contains g.path icon.assetName = true ↔
        ∃ e ∈ g.entries, e.assetName = icon.assetName) ∧
      ∀ e ∈ g.entries, e.assetName = icon.assetName →
        ∃ data, (Store.ofDisk w'.disk).load g.path icon.assetName =
          some ⟨icon.assetName, g.path, e.directory.child e.filename, data⟩ := by
  obtain ⟨d, n, hstaging⟩ := generate_followed h
  obtain ⟨items, folder, -, rfl, hinstalled⟩ := generate_installed hicons h
  have hslash := Identifier.slash_not_mem_assetName
    (Identifier.slash_not_mem_baseName hparse hraw)
  have hfollowed : ∀ x ∈ items, x.assetName = icon.assetName →
      (x.entry (output.child directoryName)).Followed (output.child directoryName) :=
    fun x hx hname => Item.followed_of_staging (hinstalled.sound x hx)
      (hstaging _ (List.mem_map_of_mem hx)) fun habsolute =>
        hshort habsolute _ (List.mem_map_of_mem hx) hname
  constructor
  · constructor
    · intro hcontains
      obtain ⟨x, hx, hname⟩ := exists_item_of_contains hinstalled hslash hcontains
      exact ⟨_, List.mem_map_of_mem hx, hname⟩
    · rintro ⟨e, he, hname⟩
      obtain ⟨x, hx, rfl⟩ := List.mem_map.mp he
      rw [← hname]
      exact (contains_installed_iff hinstalled hx).mpr (hfollowed x hx hname).contents
  · intro e he hname
    obtain ⟨x, hx, rfl⟩ := List.mem_map.mp he
    obtain ⟨hcontents, himage⟩ := hfollowed x hx hname
    rw [← hname]
    exact ⟨x.data, (loadFrom_installed_iff hinstalled hx hcontents).mpr ⟨himage, rfl⟩⟩

set_option maxRecDepth 4000 in
/-- The catalog of a single icon, in a directory given by a short absolute path. -/
theorem contains_generate_iff_house :
    ∃ g w',
      generate ["ph.house.fill".toList] ⟨some ⟨"i".toList⟩, none⟩ ⟨"/o".toList⟩
          (.ofDisk housesDisk) = .ok g w' ∧
        (Store.ofDisk w'.disk).contains g.path "ph.house.fill".toList = true ∧
          ∃ data, (Store.ofDisk w'.disk).load g.path "ph.house.fill".toList =
            some ⟨"ph.house.fill".toList, g.path,
              ⟨"/o/GeneratedIcons.xcassets/ph.house.fill.imageset/house-fill.svg".toList⟩,
              data⟩ := by
  have hrun : Run.succeedsWith
      (generate ["ph.house.fill".toList] ⟨some ⟨"i".toList⟩, none⟩ ⟨"/o".toList⟩)
      (.ofDisk housesDisk) (fun g _ => g.entries = [⟨"ph.house.fill".toList,
        ⟨"/o/GeneratedIcons.xcassets/ph.house.fill.imageset".toList⟩,
        "house-fill.svg".toList⟩]) = true := by
    decide +kernel
  obtain ⟨g, w', h, htest⟩ := Run.exists_ok_of_succeedsWith hrun
  have hentries := of_decide_eq_true htest
  have hparse : Identifier.parse "ph.house.fill".toList =
      some ⟨"house".toList, .weight .fill⟩ := by decide +kernel
  have hname : Identifier.assetName ⟨"house".toList, .weight .fill⟩ = "ph.house.fill".toList := by
    decide +kernel
  obtain ⟨hcontains, hload⟩ := contains_generate_iff (by decide) h (by decide) hparse (by
    rw [hentries]
    decide +kernel)
  have hpath : Path.child ⟨"/o/GeneratedIcons.xcassets/ph.house.fill.imageset".toList⟩
      "house-fill.svg".toList =
        ⟨"/o/GeneratedIcons.xcassets/ph.house.fill.imageset/house-fill.svg".toList⟩ := by
    decide +kernel
  rw [hname, hentries] at hcontains hload
  refine ⟨g, w', h, hcontains.mpr ⟨_, List.mem_singleton_self _, rfl⟩, ?_⟩
  rw [← hpath]
  exact hload _ (List.mem_singleton_self _) rfl

/-- A name of 252 bytes. -/
def longName : Text := List.replicate 63 '𝒾'

/-- A disk with the image of an icon. -/
def houseDisk : Disk :=
  ⟨[(["tmp".toList], .folder), (["i".toList], .folder), (["i".toList, "regular".toList], .folder),
    (["i".toList, "regular".toList, "house.svg".toList], .file [65] false)], []⟩

/-- An absolute path of 4040 bytes, of which a staging directory leaves just enough room. -/
def distantOutput : Path :=
  ⟨"/tmp/".toList ++ (List.replicate 15 (longName ++ "/../".toList)).flatten ++
    List.replicate 48 '𝒾' ++ "out".toList⟩

set_option maxRecDepth 10000 in
/-- The paths in the staging directory have 4095 bytes and can be followed, and a catalog with the
icon is announced.  The path of its contents document has 4096 bytes, so it is not found. -/
theorem contains_generate_distant :
    ∃ g w' icon,
      generate ["ph.house".toList] ⟨some ⟨"i".toList⟩, none⟩ distantOutput (.ofDisk houseDisk) =
          .ok g w' ∧
        '/' ∉ "ph.house".toList ∧ Identifier.parse "ph.house".toList = some icon ∧
          (∃ e ∈ g.entries, e.assetName = icon.assetName) ∧
            (Store.ofDisk w'.disk).contains g.path icon.assetName = false := by
  have hrun : Run.succeedsWith
      (generate ["ph.house".toList] ⟨some ⟨"i".toList⟩, none⟩ distantOutput) (.ofDisk houseDisk)
      (fun g w' => decide (∃ e ∈ g.entries, e.assetName = "ph.house".toList) &&
        !(Store.ofDisk w'.disk).contains g.path "ph.house".toList) = true := by
    decide +kernel
  obtain ⟨g, w', h, htest⟩ := Run.exists_ok_of_succeedsWith hrun
  obtain ⟨hentry, hcontains⟩ := Bool.and_eq_true_iff.mp htest
  have hname : Identifier.assetName ⟨"house".toList, .weight .regular⟩ = "ph.house".toList := by
    decide +kernel
  rw [← hname] at hentry hcontains
  exact ⟨g, w', _, h, by decide, by decide +kernel, of_decide_eq_true hentry,
    by simpa using hcontains⟩

end Lookup
end IconAssets
