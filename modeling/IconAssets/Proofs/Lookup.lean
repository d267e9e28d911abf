import IconAssets.Lookup
import IconAssets.Proofs.Catalog.Installed
import IconAssets.Proofs.Documents
import IconAssets.Proofs.Icon.CanonicalName

/-!
# Looking up generated images

The catalog in the hinted directory is the first location that is tried.  If it is in place, each of
its images is found there, as long as the paths are short enough.  After a generation the image that
is found for an icon is that of the first icon with the same asset name.

* `resolve_installed_iff`: what is found in a catalog that is in place;
* `resolve_generated_iff`: when the image that is found is the icon's own.
-/

namespace IconAssets
namespace Lookup

section

open Catalog

/-- The path of an image in a catalog. -/
def imagePath (catalog : Path) (x : Item) : Path := (catalog.child x.directory).child x.filename

/-- The image of an icon as a disk has it. -/
def ownImage? (d : Disk) (c : Identifier × Path) : Option Bytes :=
  match d.readFile c.2 with
  | .ok data => some (imageData c.1 data)
  | .error _ => none

theorem contains_of_probe {store : Store} {name : Text} {locations : List Path} {location : Path}
    (h : (probe store name locations).1 = some location) :
    store.contains location name = true := by
  induction locations with
  | nil =>
      cases h
  | cons first locations ih =>
      unfold probe at h
      split at h
      · next hcontains =>
        rw [← Option.some_inj.mp h]
        exact hcontains
      · exact ih h

/-- A probe of locations of which the first one has the asset ends there. -/
theorem probe_cons_of_contains {store : Store} {name : Text} {location : Path}
    (h : store.contains location name = true) (locations : List Path) :
    (probe store name (location :: locations)).1 = some location := by
  rw [probe, if_pos h]

theorem container_of_loadFrom {d : Disk} {location : Path} {name : Text} {image : Located}
    (h : loadFrom d location name = some image) : image.container = location := by
  unfold loadFrom at h
  split at h
  · cases h
  · split at h
    · cases h
    · dsimp only at h
      split at h
      · cases h
      · rw [← Option.some_inj.mp h]

/-- The image of a lookup is loaded from the location that the probe ends at. -/
theorem image_resolve {d : Disk} {store : Store} {default : Path} {hint : Option Path} {raw : Text}
    {icon : Identifier} (hparse : Identifier.parse raw = some icon) :
    (resolve d store default hint raw).image =
      (probe store icon.assetName (candidates d default hint)).1.bind fun location =>
        store.load location icon.assetName := by
  unfold resolve
  rw [hparse]
  dsimp only
  split
  · next heq =>
    rw [heq]
    rfl
  · next heq =>
    rw [heq]
    rfl

section

variable {d : Disk} {output : Path} {folder : Place} {items : List Item} {x : Item}

/-- The contents document of an image set that is in place is a file unless its path is too long. -/
theorem contains_installed_iff (h : Installed d output folder items) (hx : x ∈ items) :
    (Store.ofDisk d).contains (output.child directoryName) x.assetName = true ↔
      Disk.textFault? (contentsPath (output.child directoryName) x.assetName) = none :=
  Disk.isFile_child_iff isName_contentsName (h.leads_directory hx) (by decide)
    (h.found_contents hx)

/-- What is loaded is the image that the contents document names, if it can be read. -/
theorem loadFrom_eq_some_iff {location : Path} {name filename : Text} {contents : EntryContents}
    (hcontents : EntryContents.load d (contentsPath location name) = .ok contents)
    (hname : contents.firstFilename? = some filename) {image : Located} :
    loadFrom d location name = some image ↔
      ∃ data, d.readFile ((location.child (imagesetName name)).child filename) = .ok data ∧
        image = ⟨name, location, (location.child (imagesetName name)).child filename, data⟩ := by
  unfold loadFrom
  rw [hcontents]
  dsimp only
  rw [hname]
  dsimp only
  cases d.readFile ((location.child (imagesetName name)).child filename) with
  | error fault =>
      simp
  | ok data =>
      simp [eq_comm]

/-- An image that is in place is loaded unless its path is too long. -/
theorem loadFrom_installed_iff (h : Installed d output folder items) (hx : x ∈ items)
    (htext : Disk.textFault? (contentsPath (output.child directoryName) x.assetName) = none)
    {image : Located} :
    loadFrom d (output.child directoryName) x.assetName = some image ↔
      Disk.textFault? (imagePath (output.child directoryName) x) = none ∧
        image = ⟨x.assetName, output.child directoryName,
          imagePath (output.child directoryName) x, x.data⟩ := by
  have hsound := h.sound x hx
  have hcontents : EntryContents.load d (contentsPath (output.child directoryName) x.assetName) =
      .ok (EntryContents.templateImage x.filename) :=
    EntryContents.load_of_readFile (Disk.readFile_child_eq_ok isName_contentsName
      (h.leads_directory hx) (by decide) (h.found_contents hx) htext)
  have hread := fun hshort => Disk.readFile_child_eq_ok hsound.isName_filename
    (h.leads_directory hx) hsound.short_filename (h.found_image hx) hshort
  rw [loadFrom_eq_some_iff hcontents rfl]
  constructor
  · rintro ⟨data, hdata, rfl⟩
    obtain ⟨q, hq⟩ := Disk.resolve_of_readFile hdata
    have hshort := ((Disk.resolve_child_eq_ok_iff hsound.isName_filename).mp hq).1
    obtain rfl : data = x.data := Except.ok.inj (hdata.symm.trans (hread hshort))
    exact ⟨hshort, rfl⟩
  · rintro ⟨hshort, rfl⟩
    exact ⟨x.data, hread hshort, rfl⟩

/-- An image is found in the catalog in the hinted directory exactly if the paths are short enough,
and then it is the one of the image set that has the asset name. -/
theorem resolve_installed_iff (h : Installed d output folder items) (hx : x ∈ items)
    {raw : Text} {icon : Identifier} (hparse : Identifier.parse raw = some icon)
    (hname : x.assetName = icon.assetName) (default : Path) {image : Located} :
    (resolve d (.ofDisk d) default (some output) raw).image = some image ∧
        image.container = output.child directoryName ↔
      (Disk.textFault? (contentsPath (output.child directoryName) x.assetName) = none ∧
          Disk.textFault? (imagePath (output.child directoryName) x) = none) ∧
        image = ⟨x.assetName, output.child directoryName,
          imagePath (output.child directoryName) x, x.data⟩ := by
  have hcandidates : ∃ rest,
      candidates d default (some output) = output.child directoryName :: rest :=
    ⟨_, List.filter_cons_of_pos h.isFolder_catalog⟩
  obtain ⟨rest, hrest⟩ := hcandidates
  have hcontains := contains_installed_iff h hx
  rw [image_resolve hparse, hrest, ← hname]
  constructor
  · rintro ⟨himage, hcontainer⟩
    obtain ⟨location, hprobe, hload⟩ := Option.bind_eq_some_iff.mp himage
    obtain rfl : output.child directoryName = location :=
      hcontainer.symm.trans (container_of_loadFrom hload)
    have htext := hcontains.mp (contains_of_probe hprobe)
    obtain ⟨hshort, rfl⟩ := (loadFrom_installed_iff h hx htext).mp hload
    exact ⟨⟨htext, hshort⟩, rfl⟩
  · rintro ⟨⟨htext, hshort⟩, rfl⟩
    rw [probe_cons_of_contains (hcontains.mpr htext)]
    exact ⟨(loadFrom_installed_iff h hx htext).mpr ⟨hshort, rfl⟩, rfl⟩

end

section

variable {d : Disk} {roots : Roots} {icons : List Text}

theorem exists_ownImage? {c : Identifier × Path}
    (hc : c ∈ mapped roots (Image.validate d roots icons).valid) :
    ∃ data, d.readFile c.2 = .ok data ∧ ownImage? d c = some (imageData c.1 data) := by
  obtain ⟨-, -, -, hfile⟩ := of_mem_mapped_valid hc
  obtain ⟨data, hdata⟩ := Disk.exists_readFile_of_isFile hfile
  exact ⟨data, hdata, by simp [ownImage?, hdata]⟩

end

/-- Mapped icons with the same asset name are the same, unless one of them leaves the default
modifier out behind a base name that ends in a modifier. -/
theorem mapped_eq_of_assetName_eq {roots : Roots} {icons : List Text} {b c : Identifier × Path}
    (hb : b ∈ mapped roots icons) (hc : c ∈ mapped roots icons)
    (hname : b.1.assetName = c.1.assetName)
    (hbplain : ¬(b.1.modifier.isDefault = true ∧ b.1.EndsInModifier))
    (hcplain : ¬(c.1.modifier.isDefault = true ∧ c.1.EndsInModifier)) : b = c := by
  obtain ⟨_, -, hbparse, root, hbroot, hbsource⟩ := mem_mapped hb
  obtain ⟨_, -, hcparse, other, hcroot, hcsource⟩ := mem_mapped hc
  have hicon := Identifier.eq_of_assetName_eq hbparse hcparse hname hbplain hcplain
  rw [hicon, hcroot] at hbroot
  cases hbroot
  exact Prod.ext hicon (by rw [hbsource, hcsource, hicon])

end

/-!
## What a store is asked

A lookup asks the store for the asset at one location after the other, up to the first one that has
it.  From there the image is loaded, once, and whatever comes of it is the answer.

* `Probed`: the calls made for an asset at a row of locations, and the image they come to;
* `probe_cases`: how far a probe goes;
* `resolve_probed`: the calls of a lookup.
-/

section

/-- A store is asked for an asset at a row of locations: at all of them up to the first one that has
it, from which it is then loaded; or at all of them, if none has it. -/
inductive Probed (store : Store) (name : Text) (locations : List Path) :
    Option Located → List Call → Prop
  | found {before after : List Path} {location : Path}
    (hsplit : locations = before ++ location :: after)
    (hbefore : ∀ l ∈ before, store.contains l name = false)
    (hhere : store.contains location name = true) :
    Probed store name locations (store.load location name)
      ((before.map fun l => Call.contains l name false) ++
        [.contains location name true, .load location name])
  | missing (h : ∀ l ∈ locations, store.contains l name = false) :
    Probed store name locations none (locations.map fun l => .contains l name false)

variable {store : Store} {name : Text}

/-- A probe ends at the first location that has the asset, or goes on to the end. -/
theorem probe_cases (store : Store) (name : Text) (locations : List Path) :
    (∃ before location after, locations = before ++ location :: after ∧
        (∀ l ∈ before, store.contains l name = false) ∧ store.contains location name = true ∧
        probe store name locations = (some location,
          (before.map fun l => Call.contains l name false) ++ [.contains location name true])) ∨
      (∀ l ∈ locations, store.contains l name = false) ∧
        probe store name locations = (none, locations.map fun l => .contains l name false) := by
  induction locations with
  | nil =>
      exact .inr ⟨fun _ hl => absurd hl List.not_mem_nil, rfl⟩
  | cons first locations ih =>
      unfold probe
      cases hfirst : store.contains first name with
      | true =>
          exact .inl ⟨[], first, locations, rfl, fun _ hl => absurd hl List.not_mem_nil, hfirst,
            rfl⟩
      | false =>
          rcases ih with ⟨before, location, after, rfl, hbefore, hhere, hprobe⟩ | ⟨hnone, hprobe⟩
          · rw [hprobe]
            exact .inl ⟨first :: before, location, after, rfl,
              List.forall_mem_cons.mpr ⟨hfirst, hbefore⟩, hhere, rfl⟩
          · rw [hprobe]
            exact .inr ⟨List.forall_mem_cons.mpr ⟨hfirst, hnone⟩, rfl⟩

/-- **A lookup asks the store for the canonical name at those of four locations that are folders,
one after the other up to the first that has the asset, and loads it from there alone.**  What the
loading comes to is the answer, also if it is nothing; there is no other call, and none at all for a
text that is no identifier.  Without a hint the default location stands in for it. -/
theorem resolve_probed (d : Disk) (store : Store) (default : Path) (hint : Option Path)
    (raw : Text) :
    (Identifier.parse raw = none →
      (resolve d store default hint raw).image = none ∧
        (resolve d store default hint raw).calls = []) ∧
    ∀ icon, Identifier.parse raw = some icon →
      Probed store icon.assetName
        ([(hint.getD default).child Catalog.directoryName, default.child Catalog.directoryName,
          hint.getD default, default].filter d.isFolder)
        (resolve d store default hint raw).image (resolve d store default hint raw).calls := by
  refine ⟨fun hraw => ?_, fun icon hicon => ?_⟩
  · simp only [resolve, hraw, and_self]
  · have hlocations : [(hint.getD default).child Catalog.directoryName,
        default.child Catalog.directoryName, hint.getD default, default].filter d.isFolder =
        candidates d default hint := rfl
    rw [hlocations]
    rcases probe_cases store icon.assetName (candidates d default hint) with
      ⟨before, location, after, hsplit, hbefore, hhere, hprobe⟩ | ⟨hnone, hprobe⟩
    · simp only [resolve, hicon, hprobe, List.append_assoc, List.singleton_append]
      exact .found hsplit hbefore hhere
    · simp only [resolve, hicon, hprobe]
      exact .missing hnone

/-- A disk with a folder in which nothing is. -/
def emptyFolderDisk : Disk := ⟨[(["o".toList], .folder)], []⟩

/-- A store that has every asset everywhere and can load none. -/
def hollowStore : Store := ⟨fun _ _ => true, fun _ _ => none⟩

/-- Without a hint the only folder is there twice; what it cannot load is not asked for again. -/
theorem resolve_probed_hollow :
    Identifier.parse "ph".toList = none ∧
      (resolve emptyFolderDisk hollowStore ⟨"o".toList⟩ none "ph".toList).calls = [] ∧
      Identifier.parse "ph.house".toList = some ⟨"house".toList, .weight .regular⟩ ∧
      (resolve emptyFolderDisk hollowStore ⟨"o".toList⟩ none "ph.house".toList).image = none ∧
      (resolve emptyFolderDisk hollowStore ⟨"o".toList⟩ none "ph.house".toList).calls =
        [.contains ⟨"o".toList⟩ "ph.house".toList true, .load ⟨"o".toList⟩ "ph.house".toList] := by
  have hnone : Identifier.parse "ph".toList = none := by decide
  have hicon : Identifier.parse "ph.house".toList = some ⟨"house".toList, .weight .regular⟩ := by
    decide
  have hname : Identifier.assetName ⟨"house".toList, .weight .regular⟩ = "ph.house".toList := by
    decide
  have hlocations : [Path.child ⟨"o".toList⟩ Catalog.directoryName,
      Path.child ⟨"o".toList⟩ Catalog.directoryName, ⟨"o".toList⟩, ⟨"o".toList⟩].filter
      emptyFolderDisk.isFolder = [⟨"o".toList⟩, ⟨"o".toList⟩] := by
    decide +kernel
  obtain ⟨-, hcalls⟩ := (resolve_probed emptyFolderDisk hollowStore ⟨"o".toList⟩ none
    "ph".toList).1 hnone
  have hprobed := (resolve_probed emptyFolderDisk hollowStore ⟨"o".toList⟩ none
    "ph.house".toList).2 _ hicon
  rw [Option.getD_none, hlocations, hname] at hprobed
  refine ⟨hnone, hcalls, hicon, ?_⟩
  generalize (resolve emptyFolderDisk hollowStore ⟨"o".toList⟩ none "ph.house".toList).image = image
    at hprobed ⊢
  generalize (resolve emptyFolderDisk hollowStore ⟨"o".toList⟩ none "ph.house".toList).calls = calls
    at hprobed ⊢
  cases hprobed with
  | @found before after location hsplit hbefore _ =>
      cases before with
      | nil =>
          obtain ⟨rfl, -⟩ := List.cons.inj hsplit
          exact ⟨rfl, rfl⟩
      | cons l before =>
          cases hbefore l List.mem_cons_self
  | missing h =>
      cases h _ List.mem_cons_self

end

end Lookup
end IconAssets
