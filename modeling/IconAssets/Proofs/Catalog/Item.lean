import IconAssets.Catalog.Generate
import IconAssets.Image.Location
import IconAssets.Proofs.Disk.Grows
import Mathlib.Data.List.Nodup

/-!
# What a catalog holds

A catalog is made of one image set for each of its items, and of a contents document at the top.
Here all its objects are listed, with their places inside the catalog.

* `lookup_imageSets_eq_none`: an image set that is not there yet;
* `nodup_places_layout`: no place is listed twice;
* `mem_layout_iff`: what is listed.
-/

namespace IconAssets

namespace Catalog

/-- What a catalog holds for an icon. -/
structure Item where
  assetName : Text
  filename : Text
  data : Bytes
  deriving DecidableEq, Repr

namespace Item

/-- The directory of the image set. -/
def directory (x : Item) : Text := imagesetName x.assetName

/-- The contents document of the image set. -/
def contents (x : Item) : Bytes := Utf8.encode (EntryContents.templateImage x.filename).print

/-- The objects of the image set: a directory with two files. -/
def objects (x : Item) : List (Place × Object) :=
  [([x.directory], .folder), ([x.directory, x.filename], .file x.data false),
    ([x.directory, contentsName], .file x.contents false)]

/-- How the image set is announced. -/
def entry (catalog : Path) (x : Item) : Entry :=
  ⟨x.assetName, catalog.child x.directory, x.filename⟩

end Item

/-- The directory of a catalog with its image sets. -/
def imageSets (items : List Item) : List (Place × Object) :=
  ([], .folder) :: items.flatMap Item.objects

/-- The contents document at the top of a catalog. -/
def rootContents : Bytes := Utf8.encode RootContents.standard.print

/-- All objects of a catalog. -/
def layout (items : List Item) : List (Place × Object) :=
  imageSets items ++ [([contentsName], .file rootContents false)]

theorem imagesetName_injective : Function.Injective imagesetName := fun _ _ h =>
  List.append_cancel_right h

theorem imagesetName_ne_contentsName (assetName : Text) :
    imagesetName assetName ≠ contentsName := by
  intro h
  have hlast := congrArg List.getLast? h
  rw [imagesetName, List.getLast?_append_of_ne_nil _ (by decide)] at hlast
  exact absurd hlast (by decide)

theorem imageSets_append (items : List Item) (x : Item) :
    imageSets (items ++ [x]) = imageSets items ++ x.objects := by
  simp [imageSets]

/-- Nothing is below a directory that no image set has. -/
theorem lookup_imageSets_eq_none {items : List Item} {name : Text}
    (h : ∀ x ∈ items, x.directory ≠ name) (rest : Place) :
    (imageSets items).lookup (name :: rest) = none := by
  rw [List.lookup_eq_none_iff]
  rintro ⟨p, x⟩ hp
  rw [imageSets, List.mem_cons, List.mem_flatMap] at hp
  rcases hp with heq | ⟨item, hitem, hp⟩
  · cases heq
    rfl
  · have hne := h item hitem
    rw [bne_iff_ne]
    rintro rfl
    simp only [Item.objects, List.mem_cons, Prod.mk.injEq, List.cons.injEq, List.not_mem_nil,
      or_false] at hp
    rcases hp with ⟨⟨hname, -⟩, -⟩ | ⟨⟨hname, -⟩, -⟩ | ⟨⟨hname, -⟩, -⟩ <;> exact hne hname.symm

@[simp] theorem lookup_imageSets_nil (items : List Item) :
    (imageSets items).lookup [] = some .folder := rfl

/-- What is listed is the directory of the catalog, in an image set, or the contents document at the
top. -/
theorem mem_layout_iff {items : List Item} {e : Place × Object} :
    e ∈ layout items ↔
      e = ([], .folder) ∨ (∃ x ∈ items, e ∈ x.objects) ∨
        e = ([contentsName], .file rootContents false) := by
  simp [layout, imageSets]

theorem ne_device_of_mem_layout {items : List Item} {e : Place × Object} (h : e ∈ layout items)
    (x : Device) : e.2 ≠ .device x := by
  rcases mem_layout_iff.mp h with rfl | ⟨item, -, hitem⟩ | rfl
  · simp
  · simp only [Item.objects, List.mem_cons, List.not_mem_nil, or_false] at hitem
    rcases hitem with rfl | rfl | rfl <;> simp
  · simp

/-- The places of an image set are its directory and two files in it. -/
theorem Item.mem_places_iff {x : Item} {p : Place} :
    p ∈ x.objects.map Prod.fst ↔
      p = [x.directory] ∨ p = [x.directory, x.filename] ∨ p = [x.directory, contentsName] := by
  simp [Item.objects]

/-- No place is listed twice in a catalog whose items have different names and no image with the
name of a contents document. -/
theorem nodup_places_layout {items : List Item} (hnames : (items.map Item.assetName).Nodup)
    (hfiles : ∀ x ∈ items, x.filename ≠ contentsName) :
    ((layout items).map Prod.fst).Nodup := by
  have hsets : (items.flatMap fun x => x.objects.map Prod.fst).Nodup := by
    rw [List.nodup_flatMap]
    constructor
    · intro x hx
      simp [Item.objects, hfiles x hx]
    · refine List.Pairwise.imp ?_ (List.pairwise_map.mp hnames)
      intro x y hne p hp hq
      have hdir : x.directory ≠ y.directory := fun h => hne (imagesetName_injective h)
      rcases Item.mem_places_iff.mp hp with rfl | rfl | rfl <;>
        simp [Item.objects, hdir] at hq
  have hmap : (layout items).map Prod.fst =
      [] :: (items.flatMap fun x => x.objects.map Prod.fst) ++ [[contentsName]] := by
    simp [layout, imageSets, List.map_flatMap]
  rw [hmap, List.nodup_append, List.nodup_cons]
  refine ⟨⟨?_, hsets⟩, by simp, ?_⟩
  · simp [Item.objects]
  · intro p hp q hq
    rw [List.mem_singleton] at hq
    subst hq
    rintro rfl
    rcases List.mem_cons.mp hp with hnil | hp
    · cases hnil
    · obtain ⟨x, -, hp⟩ := List.mem_flatMap.mp hp
      simp [Item.objects, (imagesetName_ne_contentsName x.assetName).symm, Item.directory] at hp

end Catalog

/-!
## The icons of a catalog

A catalog has one image set for each asset name that some spelled icon with a source image path has.
The first icon with the name decides what the image set holds.

* `filter_firstsBy_cons`: what a first item takes away from the rest;
* `mem_firstsBy`, `nodup_map_firstsBy`: each key once, and each from the first item that has it;
* `chosen`: the icons that decide;
* `Next`, `next_cases`: what writing image sets does with one more icon.
-/

/-- The items of a list that are the first ones with their key. -/
def firstsBy {α : Type} (key : α → Text) : List α → List α
  | [] => []
  | x :: xs => x :: (firstsBy key xs).filter fun y => key y ≠ key x

section

variable {α : Type} {key : α → Text}

/-- No two of the first items have the same key. -/
theorem nodup_map_firstsBy (xs : List α) : ((firstsBy key xs).map key).Nodup := by
  induction xs with
  | nil =>
      exact List.nodup_nil
  | cons x xs ih =>
      rw [firstsBy, List.map_cons, List.nodup_cons]
      constructor
      · simp
      · exact ih.sublist (List.filter_sublist.map key)

theorem mem_firstsBy {xs : List α} {x : α} (h : x ∈ firstsBy key xs) : x ∈ xs := by
  induction xs with
  | nil =>
      exact h
  | cons y ys ih =>
      rw [firstsBy, List.mem_cons] at h
      rcases h with rfl | h
      · exact List.mem_cons_self
      · exact List.mem_cons_of_mem _ (ih (List.mem_of_mem_filter h))

/-- Every key of a list is that of a first item. -/
theorem exists_mem_firstsBy {xs : List α} {x : α} (h : x ∈ xs) :
    ∃ y ∈ firstsBy key xs, key y = key x := by
  induction xs with
  | nil =>
      cases h
  | cons y ys ih =>
      rcases List.mem_cons.mp h with rfl | h
      · exact ⟨x, by simp [firstsBy], rfl⟩
      · by_cases hkey : key y = key x
        · exact ⟨y, by simp [firstsBy], hkey⟩
        · obtain ⟨z, hz, hzx⟩ := ih h
          exact ⟨z, by simp [firstsBy, hz, hzx, Ne.symm hkey], hzx⟩

/-- Leaving out keys that have been met, the first items go on with the next one whose key has not
been met. -/
theorem filter_firstsBy_cons (met : List Text) (x : α) (xs : List α) :
    ((firstsBy key (x :: xs)).filter fun y => key y ∉ met) =
      if key x ∈ met then (firstsBy key xs).filter fun y => key y ∉ met
      else x :: (firstsBy key xs).filter fun y => key y ∉ key x :: met := by
  split
  · next hmet =>
    rw [firstsBy, List.filter_cons_of_neg (by simpa using hmet), List.filter_filter]
    refine List.filter_congr fun y _ => ?_
    by_cases hy : key y ∈ met
    · simp [hy]
    · have hne : key y ≠ key x := fun h => hy (h ▸ hmet)
      simp [hy, hne]
  · next hmet =>
    rw [firstsBy, List.filter_cons_of_pos (by simpa using hmet), List.filter_filter]
    congr 1
    refine List.filter_congr fun y _ => ?_
    by_cases hy : key y = key x <;> simp [hy]

end

namespace Image

/-- The usable icons are those with a path that names a file. -/
theorem mem_valid_iff {d : Disk} {roots : Roots} {icons : List Text} {raw : Text} :
    raw ∈ (validate d roots icons).valid ↔
      raw ∈ icons ∧ ∃ path, pathOf? roots raw = some path ∧ d.isFile path = true := by
  unfold validate isUsable
  rw [List.mem_filter]
  refine and_congr_right fun _ => ?_
  cases pathOf? roots raw <;> simp

/-- Icons that are usable have the path of an image. -/
theorem pathOf?_ne_none_of_mem_valid {d : Disk} {roots : Roots} {icons : List Text} {raw : Text}
    (h : raw ∈ (validate d roots icons).valid) : pathOf? roots raw ≠ none := by
  obtain ⟨-, path, hpath, -⟩ := mem_valid_iff.mp h
  rw [hpath]
  exact Option.some_ne_none path

end Image

namespace Catalog

/-- The icons that texts spell, with the paths of their images. -/
def mapped (roots : Roots) (icons : List Text) : List (Identifier × Path) :=
  icons.filterMap fun raw =>
    (Identifier.parse raw).bind fun icon =>
      (Image.path? roots icon).map fun source => (icon, source)

theorem mapped_subset_cons {roots : Roots} (raw : Text) (icons : List Text) :
    mapped roots icons ⊆ mapped roots (raw :: icons) := fun _ h => by
  obtain ⟨r, hr, hc⟩ := List.mem_filterMap.mp h
  exact List.mem_filterMap.mpr ⟨r, List.mem_cons_of_mem _ hr, hc⟩

/-- The icons that decide what a catalog holds: the first ones with their asset names. -/
def chosen (roots : Roots) (icons : List Text) : List (Identifier × Path) :=
  firstsBy (fun c => c.1.assetName) (mapped roots icons)

/-- Leaving out assets that have been met, the chosen icons go on with the next one whose asset has
not been met. -/
theorem filter_chosen_cons {roots : Roots} {raw : Text} {icons : List Text} {c : Identifier × Path}
    (h : mapped roots (raw :: icons) = c :: mapped roots icons) (met : List Text) :
    ((chosen roots (raw :: icons)).filter fun y => y.1.assetName ∉ met) =
      if c.1.assetName ∈ met then (chosen roots icons).filter fun y => y.1.assetName ∉ met
      else c :: (chosen roots icons).filter fun y => y.1.assetName ∉ c.1.assetName :: met := by
  rw [chosen, h]
  exact filter_firstsBy_cons met c (mapped roots icons)

theorem mem_mapped_of_path {roots : Roots} {icons : List Text} {raw : Text} {icon : Identifier}
    {source : Path} (hraw : raw ∈ icons) (hparse : Identifier.parse raw = some icon)
    (hsource : Image.path? roots icon = some source) : (icon, source) ∈ mapped roots icons :=
  List.mem_filterMap.mpr ⟨raw, hraw, by simp [hparse, hsource]⟩

/-- What the writing of image sets does with the next icon: it reports that the icon is passed over,
since it has no path or its asset has been written, or it writes the image set. -/
inductive Next (roots : Roots) (staging catalog : Path) (written : List Text) (raw : Text)
    (icons : List Text) : Prop
  | passedOver (e : Event)
      (hevent : Image.pathOf? roots raw ≠ none → ∃ assetName, e = .iconRepeated raw assetName)
      (hchosen : ((chosen roots (raw :: icons)).filter fun c => c.1.assetName ∉ written) =
        (chosen roots icons).filter fun c => c.1.assetName ∉ written)
      (hrun : writeEntries roots staging catalog written (raw :: icons) =
        Run.report e >>= fun _ => writeEntries roots staging catalog written icons)
  | written {icon : Identifier} {source : Path} (hparse : Identifier.parse raw = some icon)
      (hpath : Image.path? roots icon = some source) (hnew : icon.assetName ∉ written)
      (hchosen : ((chosen roots (raw :: icons)).filter fun c => c.1.assetName ∉ written) =
        (icon, source) ::
          (chosen roots icons).filter fun c => c.1.assetName ∉ icon.assetName :: written)
      (hrun : writeEntries roots staging catalog written (raw :: icons) = do
        let entry ← writeEntry staging catalog icon source
        let entries ← writeEntries roots staging catalog (icon.assetName :: written) icons
        return entry :: entries)

theorem next_cases (roots : Roots) (staging catalog : Path) (written : List Text) (raw : Text)
    (icons : List Text) : Next roots staging catalog written raw icons := by
  cases hparse : Identifier.parse raw with
  | none =>
      have hmapped : mapped roots (raw :: icons) = mapped roots icons := by simp [mapped, hparse]
      refine .passedOver (.iconUnparseable raw) (fun h => absurd ?_ h)
        (by rw [chosen, hmapped, chosen]) ?_
      · rw [Image.pathOf?, hparse, Option.bind_none]
      · rw [writeEntries, hparse]
  | some icon =>
      cases hpath : Image.path? roots icon with
      | none =>
          have hmapped : mapped roots (raw :: icons) = mapped roots icons := by
            simp [mapped, hparse, hpath]
          refine .passedOver (.iconUnmapped raw) (fun h => absurd ?_ h)
            (by rw [chosen, hmapped, chosen]) ?_
          · rw [Image.pathOf?, hparse, Option.bind_some, hpath]
          · rw [writeEntries, hparse]
            dsimp only
            rw [hpath]
      | some source =>
          have hchosen := @filter_chosen_cons roots raw icons (icon, source)
            (by simp [mapped, hparse, hpath]) written
          by_cases hmet : icon.assetName ∈ written
          · rw [if_pos hmet] at hchosen
            refine .passedOver _ (fun _ => ⟨icon.assetName, rfl⟩) hchosen ?_
            rw [writeEntries, hparse]
            dsimp only
            rw [hpath]
            exact if_pos hmet
          · rw [if_neg hmet] at hchosen
            refine .written hparse hpath hmet hchosen ?_
            rw [writeEntries, hparse]
            dsimp only
            rw [hpath]
            exact if_neg hmet

/-- An item holds the image of an icon, as it is read from a disk.  Its directory can be made. -/
structure IsItem (d : Disk) (c : Identifier × Path) (x : Item) : Prop where
  assetName : x.assetName = c.1.assetName
  filename : c.2.fileName? = some x.filename
  data : ∃ data, d.readFile c.2 = .ok data ∧ x.data = imageData c.1 data
  short : Disk.isTooLong x.directory = false

theorem mem_mapped {roots : Roots} {icons : List Text} {c : Identifier × Path}
    (h : c ∈ mapped roots icons) :
    ∃ raw ∈ icons, Identifier.parse raw = some c.1 ∧
      ∃ root, roots.of c.1.provider = some root ∧ c.2 = Image.below root c.1 := by
  obtain ⟨raw, hraw, hc⟩ := List.mem_filterMap.mp h
  obtain ⟨icon, hicon, hc⟩ := Option.bind_eq_some_iff.mp hc
  obtain ⟨source, hsource, rfl⟩ := Option.map_eq_some_iff.mp hc
  obtain ⟨root, hroot, rfl⟩ := Option.map_eq_some_iff.mp hsource
  exact ⟨raw, hraw, hicon, root, hroot, rfl⟩

/-- The path of a mapped icon that is usable names a file. -/
theorem of_mem_mapped_valid {d : Disk} {roots : Roots} {icons : List Text} {c : Identifier × Path}
    (hc : c ∈ mapped roots (Image.validate d roots icons).valid) :
    ∃ raw ∈ icons, Image.pathOf? roots raw = some c.2 ∧ d.isFile c.2 = true := by
  obtain ⟨raw, hraw, hparse, root, hroot, hsource⟩ := mem_mapped hc
  obtain ⟨hmem, path, hpath, hfile⟩ := Image.mem_valid_iff.mp hraw
  have hthis : Image.pathOf? roots raw = some c.2 := by
    simp [Image.pathOf?, hparse, Image.path?, hroot, hsource]
  rw [hthis] at hpath
  cases hpath
  exact ⟨raw, hmem, hthis, hfile⟩

/-- A usable icon is mapped. -/
theorem exists_mapped_eq {d : Disk} {roots : Roots} {icons : List Text} {raw : Text}
    (h : raw ∈ (Image.validate d roots icons).valid) :
    ∃ c, mapped roots [raw] = [c] ∧ Identifier.parse raw = some c.1 := by
  obtain ⟨-, path, hpath, -⟩ := Image.mem_valid_iff.mp h
  obtain ⟨icon, hparse, hsource⟩ := Option.bind_eq_some_iff.mp hpath
  exact ⟨(icon, path), by simp [mapped, hparse, hsource], hparse⟩

theorem exists_icon_of_mem {d : Disk} {cs : List (Identifier × Path)} {items : List Item} {x : Item}
    (h : List.Forall₂ (IsItem d) cs items) (hx : x ∈ items) : ∃ c ∈ cs, IsItem d c x := by
  induction h with
  | nil =>
      cases hx
  | @cons c y cs items hc _ ih =>
      rcases List.mem_cons.mp hx with rfl | hx
      · exact ⟨c, List.mem_cons_self, hc⟩
      · obtain ⟨b, hb, hitem⟩ := ih hx
        exact ⟨b, List.mem_cons_of_mem _ hb, hitem⟩

theorem exists_item_of_mem {d : Disk} {cs : List (Identifier × Path)} {items : List Item}
    {c : Identifier × Path} (h : List.Forall₂ (IsItem d) cs items) (hc : c ∈ cs) :
    ∃ x ∈ items, IsItem d c x := by
  induction h with
  | nil =>
      cases hc
  | @cons b y cs items hb _ ih =>
      rcases List.mem_cons.mp hc with rfl | hc
      · exact ⟨y, List.mem_cons_self, hb⟩
      · obtain ⟨x, hx, hitem⟩ := ih hc
        exact ⟨x, List.mem_cons_of_mem _ hx, hitem⟩

/-- The items have the asset names of the icons, in the same order. -/
theorem map_assetName_of_isItem {d : Disk} {items : List Item} {cs : List (Identifier × Path)}
    (h : List.Forall₂ (IsItem d) cs items) :
    items.map Item.assetName = cs.map fun c => c.1.assetName := by
  induction h with
  | nil =>
      rfl
  | cons hx _ ih =>
      rw [List.map_cons, List.map_cons, ih, hx.assetName]

end Catalog

end IconAssets
