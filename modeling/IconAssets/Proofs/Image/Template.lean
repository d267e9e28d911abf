import IconAssets.Proofs.Disk.Clear
import IconAssets.Proofs.Icon.Names

/-!
# Where the paths of images lead

Below the directory of its provider, the image of an icon has a place that is made of its modifier
and its name.  No piece of it goes up, so a path that is put together from the two stays in the
directory.  A base name that starts with a slash, however, makes a path of its own where the name of
the file is put behind the directory, which is then left out.

* `isAbsolute_fileName_iff`: which names of files start at the root folder;
* `text_below`, `below_of_slash`: the two forms of the path of an image;
* `target_below`: where the first form leads;
* `pathOf?_eq_some`: the paths of all spelled icons.
-/

namespace IconAssets
namespace Image

/-- The place of an image below the directory of its provider, as a text. -/
def template (icon : Identifier) : Text :=
  match icon.modifier with
  | .weight w =>
    w.name ++ '/' :: icon.fileStem ++ (if w = .regular then [] else '-' :: w.name) ++ ".svg".toList
  | .variant v => icon.fileStem ++ (if v = .filled then [] else '-' :: v.name) ++ ".svg".toList

variable {root : Path} {icon : Identifier}

theorem template_of_weight {w : Weight} (h : icon.modifier = .weight w) :
    template icon = w.name ++ '/' :: fileName icon := by
  unfold template fileName
  rw [h]
  cases w <;> simp [Modifier.isDefault, Modifier.provider, Provider.defaultModifier, Modifier.name]

theorem template_of_variant {v : Variant} (h : icon.modifier = .variant v) :
    template icon = fileName icon := by
  unfold template fileName
  rw [h]
  cases v <;> simp [Modifier.isDefault, Modifier.provider, Provider.defaultModifier, Modifier.name]

/-- The name of a file starts at the root folder where the base name starts with a slash. -/
theorem isAbsolute_fileName_iff (h : icon.baseName ≠ []) :
    Path.isAbsolute ⟨fileName icon⟩ = true ↔ icon.baseName.head? = some '/' := by
  obtain ⟨c, cs, hstem⟩ := List.exists_cons_of_ne_nil (Identifier.fileStem_ne_nil h)
  rw [← Identifier.head?_fileStem_iff, Path.isAbsolute, fileName, hstem]
  simp

theorem isName_weight (w : Weight) : Path.IsName w.name := by
  constructor <;> cases w <;> decide

/-- The path of an image is its directory, a slash where one is needed, and its place below. -/
theorem text_below (h : Path.isAbsolute ⟨fileName icon⟩ = false) :
    (below root icon).text = root.slashed ++ template icon := by
  unfold below
  split
  · next w hweight =>
    rw [Path.child, Path.text_join h, Path.slashed_child root (isName_weight w),
      template_of_weight hweight]
    simp
  · next v hvariant =>
    rw [Path.child, Path.text_join h, template_of_variant hvariant]

theorem below_of_slash (h : Path.isAbsolute ⟨fileName icon⟩ = true) :
    below root icon = ⟨fileName icon⟩ := by
  unfold below
  split <;> rw [Path.child, Path.join, if_pos h]

theorem not_up_of_mem_template (h : [] ∉ Text.pieces '.' icon.baseName) {piece : Text}
    (hpiece : piece ∈ Text.pieces '/' (template icon)) : Disk.isUp piece = false := by
  have hname := nil_not_mem_pieces_fileName h
  cases hmodifier : icon.modifier with
  | weight w =>
      rw [template_of_weight hmodifier, Text.pieces_append_cons, (isName_weight w).pieces_eq,
        List.singleton_append, List.mem_cons] at hpiece
      rcases hpiece with rfl | hpiece
      · exact (isName_weight w).not_up
      · exact Path.not_up_of_mem_pieces hname hpiece
  | variant v =>
      rw [template_of_variant hmodifier] at hpiece
      exact Path.not_up_of_mem_pieces hname hpiece

/-- A path that goes on behind a directory without going up leads to a place below it. -/
theorem prefix_target_join {d : Disk} {p q : Path} (hq : q.isAbsolute = false)
    (hup : ∀ piece ∈ Text.pieces '/' q.text, Disk.isUp piece = false) :
    d.target p <+: d.target (p.join q) := by
  rw [Disk.target_join d hq]
  exact Disk.prefix_of_mem_stops (fun piece hpiece => hup piece (List.mem_of_mem_filter hpiece))
    (Disk.travel_mem_stops _ _)

theorem target_below (d : Disk) (h : Path.isAbsolute ⟨fileName icon⟩ = false)
    (hname : [] ∉ Text.pieces '.' icon.baseName) :
    d.target root <+: d.target (below root icon) := by
  have hup : ∀ piece ∈ Text.pieces '/' (fileName icon), Disk.isUp piece = false := fun _ =>
    Path.not_up_of_mem_pieces (nil_not_mem_pieces_fileName hname)
  unfold below
  split
  · next w _ =>
    have hweight := List.prefix_append (d.target root) [w.name]
    rw [← Disk.target_child d root (isName_weight w)] at hweight
    exact hweight.trans (prefix_target_join h hup)
  · exact prefix_target_join h hup

/-- **The path of an image is the directory of its provider, a slash where one is needed, and the
place of the image below it, which does not go up**; so it leads to a place below the directory.
This fails for a base name that starts with a slash: then the path is the name of the file alone,
whatever the directory. -/
theorem pathOf?_eq_some {roots : Roots} {raw : Text} {p : Path} (h : pathOf? roots raw = some p) :
    ∃ icon root,
      Identifier.parse raw = some icon ∧ roots.of icon.provider = some root ∧
        (∀ piece ∈ Text.pieces '/' (template icon), Disk.isUp piece = false) ∧
          (icon.baseName.head? ≠ some '/' →
            p.text = root.slashed ++ template icon ∧ ∀ d : Disk, d.target root <+: d.target p) ∧
            (icon.baseName.head? = some '/' → p.text = fileName icon) := by
  obtain ⟨icon, hparse, hpath⟩ := Option.bind_eq_some_iff.mp h
  obtain ⟨root, hroot, rfl⟩ := Option.map_eq_some_iff.mp hpath
  have hname := Identifier.nil_not_mem_pieces_baseName hparse
  have habsolute := isAbsolute_fileName_iff (Identifier.baseName_ne_nil hparse)
  refine ⟨icon, root, hparse, hroot, fun _ => not_up_of_mem_template hname, ?_, ?_⟩
  · intro hslash
    have hrelative : Path.isAbsolute ⟨fileName icon⟩ = false := by
      rw [Bool.eq_false_iff]
      exact fun htrue => hslash (habsolute.mp htrue)
    exact ⟨text_below hrelative, fun d => target_below d hrelative hname⟩
  · intro hslash
    rw [below_of_slash (habsolute.mpr hslash)]

/-- The path of an image in a weight of its own. -/
theorem pathOf?_eq_some_house :
    pathOf? ⟨some ⟨"i".toList⟩, none⟩ "ph.house.bold".toList =
        some ⟨"i/bold/house-bold.svg".toList⟩ ∧
      ∃ icon root,
        Identifier.parse "ph.house.bold".toList = some icon ∧
          "i/bold/house-bold.svg".toList = Path.slashed root ++ template icon := by
  have hpath : pathOf? ⟨some ⟨"i".toList⟩, none⟩ "ph.house.bold".toList =
      some ⟨"i/bold/house-bold.svg".toList⟩ := by decide
  obtain ⟨icon, root, hparse, -, -, hplain, -⟩ := pathOf?_eq_some hpath
  have hicon : icon = ⟨"house".toList, .weight .bold⟩ := by
    rw [← Option.some_inj, ← hparse]
    decide
  exact ⟨hpath, icon, root, hparse, (hplain (by rw [hicon]; decide)).1⟩

/-- The path of an image whose base name starts with a slash is not in the directory of its
provider. -/
theorem pathOf?_slash :
    pathOf? ⟨some ⟨"i".toList⟩, none⟩ "ph./etc/x".toList = some ⟨"/etc/x.svg".toList⟩ ∧
      Identifier.parse "ph./etc/x".toList = some ⟨"/etc/x".toList, .weight .regular⟩ ∧
        "/etc/x.svg".toList ≠
            Path.slashed ⟨"i".toList⟩ ++ template ⟨"/etc/x".toList, .weight .regular⟩ ∧
          ¬Disk.target ⟨[], []⟩ ⟨"i".toList⟩ <+: Disk.target ⟨[], []⟩ ⟨"/etc/x.svg".toList⟩ := by
  decide

end Image
end IconAssets
