import IconAssets.Proofs.Catalog.Item
import IconAssets.Proofs.Icon.Names
import IconAssets.Proofs.Run

/-!
# Writing image sets

The staging directory holds the image sets written so far and nothing else, whatever icons are
passed over in between.  Images are read away from it, so they are what they were on the disk before.

* `writeEntry_ok`: the step, which adds one image set;
* `writeEntries_ok`: the run over all icons, which adds those of the chosen ones;
* `writeAll_ok`: the whole catalog.
-/

namespace IconAssets
namespace Catalog

variable {roots : Roots} {base : Disk} {here : Place} {staging catalog : Path} {w w' : World}

/-- Nothing is read at or below a place on the way to an image. -/
def StaysAway (base : Disk) (here : Place) (source : Path) : Prop :=
  ∀ r ∈ base.trail source, ¬here <+: r

/-- A contents document that is written to a free place is added to what is held. -/
theorem writeContents_ok {objects : List (Place × Object)} {q : Place} {p : Path} {document : Text}
    {u : Unit} (hholds : w.disk.Holds base here objects) (hleads : w.disk.Leads p (here ++ q))
    (hfolder : objects.lookup q = some .folder)
    (hnone : objects.lookup (q ++ [contentsName]) = none)
    (h : writeContents (p.child contentsName) document w = .ok u w') :
    w'.disk.Holds base here
        (objects ++ [(q ++ [contentsName], .file (Utf8.encode document) false)]) ∧
      w.disk.Grows w'.disk := by
  obtain ⟨d, hd, rfl⟩ := Run.change_eq_ok_iff.mp h
  obtain ⟨hheld, hgrows⟩ := hholds.writeFile hleads isName_contentsName hfolder hnone hd
  exact ⟨hheld.of_found (World.working_withDisk w d) (World.found_withDisk w d),
    World.grows_withDisk hgrows w⟩

/-- Writing the image set of an icon adds it to those that are held. -/
theorem writeEntry_ok {items : List Item} {icon : Identifier} {root : Path} {e : Entry}
    (hicon : '/' ∉ icon.baseName) (hnew : ∀ x ∈ items, x.assetName ≠ icon.assetName)
    (haway : StaysAway base here (Image.below root icon))
    (hholds : w.disk.Holds base here (imageSets items)) (hleads : w.disk.Leads staging here)
    (h : writeEntry staging catalog icon (Image.below root icon) w = .ok e w') :
    ∃ x, IsItem base (icon, Image.below root icon) x ∧ e = x.entry catalog ∧
      w'.disk.Holds base here (imageSets (items ++ [x])) ∧ w'.disk.Leads staging here := by
  have hfilename := Image.fileName?_below root hicon
  have hdirectory := isName_imagesetName (Identifier.slash_not_mem_assetName hicon)
  have habsent : ∀ rest, (imageSets items).lookup (imagesetName icon.assetName :: rest) = none :=
    lookup_imageSets_eq_none fun x hx heq => hnew x hx (imagesetName_injective heq)
  unfold writeEntry at h
  rw [hfilename] at h
  simp only [Run.bind_eq_ok_iff, Run.makeFolders_eq_ok_iff, Run.read_eq_ok_iff,
    Run.change_eq_ok_iff, Run.pure_eq_ok_iff] at h
  obtain ⟨_, _, ⟨hmade, rfl⟩, data, _, ⟨hdata, rfl⟩, _, _, ⟨d, hd, rfl⟩, _, _, hcontents, rfl,
    rfl⟩ := h
  -- The directory of the image set.
  have hstart : w.disk.Leads staging (here ++ []) := by rwa [List.append_nil]
  obtain ⟨hheld₁, hleads₁⟩ :=
    hholds.makeFolders hstart hdirectory (lookup_imageSets_nil items) (habsent []) hmade
  have hgrows₁ := Disk.grows_makeFolders w.disk (staging.child (imagesetName icon.assetName))
  -- The image, which is read elsewhere.
  rw [hheld₁.readFile haway] at hdata
  obtain ⟨hheld₂, hgrows₂⟩ := hheld₁.writeFile hleads₁ (Image.isName_fileName hicon)
    (by simp [List.lookup_append, habsent]) (by simp [List.lookup_append, habsent]) hd
  replace hgrows₂ := World.grows_withDisk hgrows₂
    { w with disk := (w.disk.makeFolders (staging.child (imagesetName icon.assetName))).1 }
  -- The contents document.
  have hne : contentsName ≠ Image.fileName icon := (Image.fileName_ne_contentsName icon).symm
  obtain ⟨hheld₃, hgrows₃⟩ := writeContents_ok
    (hheld₂.of_found (World.working_withDisk _ d) (World.found_withDisk _ d))
    (hgrows₂.leads hleads₁) (by simp [List.lookup_append, habsent])
    (by simp [List.lookup_append, habsent, hne]) hcontents
  refine ⟨⟨icon.assetName, Image.fileName icon, imageData icon data⟩,
    ⟨rfl, hfilename, ⟨data, hdata, rfl⟩, ((Disk.leads_child_iff hdirectory).mp hleads₁).1⟩, rfl, ?_,
    ?_⟩
  · rw [imageSets_append]
    simpa [Item.objects, Item.directory, Item.contents] using hheld₃
  · exact hgrows₃.leads (hgrows₂.leads (hgrows₁.leads hleads))

theorem exists_assetName_append {items : List Item} {x : Item} {written : List Text}
    (hwritten : ∀ a, a ∈ written ↔ ∃ y ∈ items, y.assetName = a) (a : Text) :
    a ∈ x.assetName :: written ↔ ∃ y ∈ items ++ [x], y.assetName = a := by
  rw [List.mem_cons, hwritten]
  constructor
  · rintro (rfl | ⟨y, hy, rfl⟩)
    · exact ⟨x, by simp, rfl⟩
    · exact ⟨y, by simp [hy], rfl⟩
  · rintro ⟨y, hy, rfl⟩
    rcases List.mem_append.mp hy with hy | hy
    · exact Or.inr ⟨y, hy, rfl⟩
    · exact Or.inl (by rw [List.mem_singleton.mp hy])

/-- Writing the image sets of icons adds those of the chosen icons that have not been written
before. -/
theorem writeEntries_ok {items : List Item} {written icons : List Text} {es : List Entry}
    (h : writeEntries roots staging catalog written icons w = .ok es w')
    (hicons : ∀ raw ∈ icons, '/' ∉ raw)
    (hwritten : ∀ a, a ∈ written ↔ ∃ x ∈ items, x.assetName = a)
    (haway : ∀ c ∈ mapped roots icons, StaysAway base here c.2)
    (hholds : w.disk.Holds base here (imageSets items)) (hleads : w.disk.Leads staging here) :
    ∃ more,
      List.Forall₂ (IsItem base)
          ((chosen roots icons).filter fun c => c.1.assetName ∉ written) more ∧
        es = more.map (Item.entry catalog) ∧
          w'.disk.Holds base here (imageSets (items ++ more)) ∧ w'.disk.Leads staging here := by
  induction icons generalizing w items written es with
  | nil =>
      obtain ⟨rfl, rfl⟩ := Run.pure_eq_ok_iff.mp h
      exact ⟨[], List.Forall₂.nil, rfl, by simpa using hholds, hleads⟩
  | cons raw icons ih =>
      have hrest : ∀ r ∈ icons, '/' ∉ r := fun r hr => hicons r (List.mem_cons_of_mem _ hr)
      have hmore : ∀ c ∈ mapped roots icons, StaysAway base here c.2 := fun c hc =>
        haway c (mapped_subset_cons raw icons hc)
      cases next_cases roots staging catalog written raw icons with
      | passedOver e _ hchosen hrun =>
          rw [hrun] at h
          rw [hchosen]
          exact ih (Run.report_bind_eq_ok_iff.mp h) hrest hwritten hmore hholds hleads
      | @written icon source hparse hpath hunmet hchosen hrun =>
          have hhere := haway _ (mem_mapped_of_path List.mem_cons_self hparse hpath)
          rw [hrun] at h
          rw [hchosen]
          obtain ⟨e, v, hentry, h⟩ := Run.bind_eq_ok_iff.mp h
          obtain ⟨es', hes, rfl⟩ := Run.bind_pure_eq_ok_iff.mp h
          obtain ⟨root, -, rfl⟩ := Option.map_eq_some_iff.mp hpath
          have hicon := Identifier.slash_not_mem_baseName hparse (hicons raw List.mem_cons_self)
          have hnew : ∀ x ∈ items, x.assetName ≠ icon.assetName := fun x hx heq =>
            hunmet ((hwritten _).mpr ⟨x, hx, heq⟩)
          obtain ⟨x, hx, rfl, hheld, hled⟩ :=
            writeEntry_ok hicon hnew hhere hholds hleads hentry
          have hwritten' := @exists_assetName_append items x written hwritten
          rw [hx.assetName] at hwritten'
          obtain ⟨more, hitems, rfl, hheld, hled⟩ := ih hes hrest hwritten' hmore hheld hled
          refine ⟨x :: more, List.Forall₂.cons hx hitems, rfl, ?_, hled⟩
          simpa using hheld

/-- Putting a catalog together leaves its layout in the staging directory, with an image set for
each chosen icon. -/
theorem writeAll_ok {icons : List Text} {es : List Entry} (hicons : ∀ raw ∈ icons, '/' ∉ raw)
    (haway : ∀ c ∈ mapped roots icons, StaysAway base here c.2)
    (hholds : w.disk.Holds base here [([], .folder)]) (hleads : w.disk.Leads staging here)
    (h : writeAll roots staging catalog icons w = .ok es w') :
    ∃ items,
      List.Forall₂ (IsItem base) (chosen roots icons) items ∧
        es = items.map (Item.entry catalog) ∧
          w'.disk.Holds base here (layout items) ∧ w'.disk.Leads staging here := by
  unfold writeAll at h
  obtain ⟨es', v, hentries, h⟩ := Run.bind_eq_ok_iff.mp h
  obtain ⟨u, hcontents, rfl⟩ := Run.bind_pure_eq_ok_iff.mp h
  obtain ⟨items, hitems, rfl, hheld, hled⟩ :=
    @writeEntries_ok roots base here staging catalog w v [] [] icons _ hentries hicons (by simp)
      haway hholds hleads
  have hfilter : ((chosen roots icons).filter fun c => c.1.assetName ∉ ([] : List Text)) =
      chosen roots icons := List.filter_eq_self.mpr fun c _ => by simp
  rw [hfilter] at hitems
  rw [List.nil_append] at hheld
  have hfree : (imageSets items).lookup [contentsName] = none :=
    lookup_imageSets_eq_none (fun x _ => imagesetName_ne_contentsName x.assetName) []
  have hstart : v.disk.Leads staging (here ++ []) := by rwa [List.append_nil]
  obtain ⟨hall, hgrows⟩ :=
    writeContents_ok hheld hstart (lookup_imageSets_nil items) hfree hcontents
  exact ⟨items, hitems, rfl, hall, hgrows.leads hled⟩

end Catalog
end IconAssets
