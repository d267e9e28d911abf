import IconAssets.Catalog.Layout
import IconAssets.Image.Location
import IconAssets.Proofs.Icon.Spelling
import IconAssets.Proofs.Path.Moves

/-!
# Names that icons give to files

An identifier without slashes gives names without slashes to its image set and to its image.

* `slash_not_mem_assetName`: canonical names;
* `isName_imagesetName`: directories of image sets;
* `isName_fileName`, `fileName?_below`: images;
* `not_up_of_mem_pieces`: names with slashes do not go up, as there are no two dots in a row.
-/

namespace IconAssets

namespace Modifier

theorem slash_not_mem_name (m : Modifier) : '/' ∉ m.name := by
  rcases m with w | v
  · cases w <;> decide
  · cases v <;> decide

end Modifier

namespace Identifier

/-- The segments of a base name are among those that spell it. -/
theorem mem_of_mem_splitModifier {p : Provider} {segments : List Text} {s : Text}
    (h : s ∈ (p.splitModifier segments).1) : s ∈ segments := by
  rcases List.eq_nil_or_concat' segments with rfl | ⟨stem, last, rfl⟩
  · exact h
  · by_cases hstem : stem = []
    · subst hstem
      exact h
    · rw [Provider.splitModifier_append p hstem] at h
      cases hm : p.modifier? last with
      | none =>
          rw [hm] at h
          exact h
      | some m =>
          rw [hm] at h
          exact List.mem_append_left _ h

theorem canonicalSegments_subset (p : Provider) (segments : List Text) :
    canonicalSegments p segments ⊆ segments := by
  unfold canonicalSegments
  split
  · exact fun _ => mem_of_mem_splitModifier
  · exact List.Subset.refl _

/-- An asset name has no characters that the spelling of its icon does not have. -/
theorem subset_assetName {raw : Text} {icon : Identifier} (h : parse raw = some icon) :
    icon.assetName ⊆ raw := by
  obtain ⟨p, segments, hsegments, rfl, rfl⟩ := parse_eq_some_iff.mp h
  intro c hc
  rw [glue_canonical hsegments] at hc
  rcases Text.mem_glue hc with rfl | ⟨s, hs, hcs⟩
  · simp [Text.glue_cons_of_ne_nil '.' p.code hsegments.ne_nil]
  · refine @Text.mem_of_mem_pieces '.' c _ s ?_ hcs
    rw [pieces_glue_code hsegments]
    exact List.cons_subset_cons _ (canonicalSegments_subset p segments) hs

/-- A base name has no slash if its spelling has none. -/
theorem slash_not_mem_baseName {raw : Text} {icon : Identifier} (h : parse raw = some icon)
    (hraw : '/' ∉ raw) : '/' ∉ icon.baseName := by
  obtain ⟨p, segments, hsegments, hglue, rfl⟩ := parse_eq_some_iff.mp h
  intro hslash
  rcases Text.mem_glue hslash with hdot | ⟨s, hs, hslash⟩
  · exact absurd hdot (by decide)
  · have hmem : s ∈ Text.pieces '.' raw := by
      rw [hglue, pieces_glue_code hsegments]
      exact List.mem_cons_of_mem _ (mem_of_mem_splitModifier hs)
    exact hraw (Text.mem_of_mem_pieces hmem hslash)

theorem slash_not_mem_assetName {icon : Identifier} (h : '/' ∉ icon.baseName) :
    '/' ∉ icon.assetName := by
  have hcode : '/' ∉ icon.provider.code := by
    cases icon.provider <;> decide
  unfold assetName
  split <;> simp [hcode, h, icon.modifier.slash_not_mem_name]

/-- An asset name has no NUL if the name of the image file has none. -/
theorem nul_not_mem_assetName {icon : Identifier} (h : '\x00' ∉ icon.fileStem) :
    '\x00' ∉ icon.assetName := by
  have hcode : '\x00' ∉ icon.provider.code := by
    cases icon.provider <;> decide
  have hmodifier : '\x00' ∉ icon.modifier.name := by
    rcases icon.modifier with w | v
    · cases w <;> decide
    · cases v <;> decide
  have hbase : '\x00' ∉ icon.baseName := by
    unfold fileStem at h
    split at h
    · exact h
    · exact fun hmem => h (List.mem_map.mpr ⟨_, hmem, by decide⟩)
  unfold assetName
  split <;> simp [hcode, hbase, hmodifier]

/-- A file stem has no slash if the base name has none. -/
theorem slash_not_mem_fileStem {icon : Identifier} (h : '/' ∉ icon.baseName) :
    '/' ∉ icon.fileStem := by
  unfold fileStem
  split
  · exact h
  · intro hslash
    obtain ⟨c, hc, heq⟩ := List.mem_map.mp hslash
    split at heq
    · exact absurd heq (by decide)
    · exact h (heq ▸ hc)

/-- The segments of a base name are not empty. -/
theorem nil_not_mem_pieces_baseName {raw : Text} {icon : Identifier} (h : parse raw = some icon) :
    [] ∉ Text.pieces '.' icon.baseName := by
  obtain ⟨p, segments, hsegments, -, rfl⟩ := parse_eq_some_iff.mp h
  have hbase := p.isSegments_splitModifier hsegments
  have hpieces : Text.pieces '.' (Provider.identifier p segments).baseName =
      (p.splitModifier segments).1 := Text.pieces_glue hbase.ne_nil hbase.dot_not_mem
  rw [hpieces]
  exact fun hnil => hbase.segment_ne_nil [] hnil rfl

theorem baseName_ne_nil {raw : Text} {icon : Identifier} (h : parse raw = some icon) :
    icon.baseName ≠ [] := by
  intro hnil
  have hpieces := nil_not_mem_pieces_baseName h
  rw [hnil] at hpieces
  exact hpieces (by simp)

theorem nil_not_mem_pieces_assetName {raw : Text} {icon : Identifier} (h : parse raw = some icon) :
    [] ∉ Text.pieces '.' icon.assetName := by
  obtain ⟨p, segments, hsegments, -, rfl⟩ := parse_eq_some_iff.mp h
  have hcanonical := isSegments_canonical (p := p) hsegments
  rw [glue_canonical hsegments, pieces_glue_code hcanonical, List.mem_cons]
  rintro (hcode | hsegment)
  · exact p.code_ne_nil hcode.symm
  · exact hcanonical.segment_ne_nil [] hsegment rfl

/-- A file stem starts with a slash where the base name does. -/
theorem head?_fileStem_iff (icon : Identifier) :
    icon.fileStem.head? = some '/' ↔ icon.baseName.head? = some '/' := by
  unfold fileStem
  split
  · rfl
  · cases icon.baseName with
    | nil =>
        rfl
    | cons c cs =>
        by_cases hc : c = '.' <;> simp [hc]

theorem fileStem_ne_nil {icon : Identifier} (h : icon.baseName ≠ []) : icon.fileStem ≠ [] := by
  unfold fileStem
  split <;> simpa using h

/-- The pieces of a file stem between dots are not empty. -/
theorem nil_not_mem_pieces_fileStem {icon : Identifier} (h : [] ∉ Text.pieces '.' icon.baseName) :
    [] ∉ Text.pieces '.' icon.fileStem := by
  have hne : icon.baseName ≠ [] := by
    intro hnil
    rw [hnil] at h
    exact h (by simp)
  have hstem := fileStem_ne_nil hne
  unfold fileStem at hstem ⊢
  split
  · exact h
  · next hprovider =>
    rw [hprovider] at hstem
    have hdot : '.' ∉ icon.baseName.map fun c => if c = '.' then '-' else c := by
      intro hmem
      obtain ⟨c, -, hc⟩ := List.mem_map.mp hmem
      split at hc
      · exact absurd hc (by decide)
      · next hother =>
        exact hother hc
    rw [Text.pieces_eq_singleton hdot, List.mem_singleton]
    exact hstem.symm

end Identifier

/-- Where no two dots are in a row, no piece goes up. -/
theorem Path.not_up_of_mem_pieces {t piece : Text} (h : [] ∉ Text.pieces '.' t)
    (hpiece : piece ∈ Text.pieces '/' t) : Disk.isUp piece = false := by
  rw [Disk.isUp, decide_eq_false_iff_not]
  rintro rfl
  exact h (Text.nil_mem_pieces_of_infix (Text.infix_of_mem_pieces hpiece))

/-- A text without slashes that ends in more than two characters which are no dots is a name. -/
theorem Path.isName_append {front back : Text} (hfront : '/' ∉ front) (hback : '/' ∉ back)
    (hlast : ∃ c, back.getLast? = some c ∧ c ≠ '.') : IsName (front ++ back) := by
  obtain ⟨c, hc, hdot⟩ := hlast
  have hne : back ≠ [] := by
    rintro rfl
    cases hc
  have hend : (front ++ back).getLast? = some c := by
    rw [List.getLast?_append_of_ne_nil _ hne, hc]
  have hother : ∀ t : Text, t.getLast? = some '.' → front ++ back ≠ t := by
    rintro t ht rfl
    rw [hend] at ht
    exact hdot (Option.some_inj.mp ht)
  refine ⟨by simp [hfront, hback], ?_, ?_⟩
  · simp [isIdle, hne, hother ['.'] rfl]
  · simp [Disk.isUp, hother ['.', '.'] rfl]

namespace Catalog

theorem isName_directoryName : Path.IsName directoryName := by
  constructor <;> decide

theorem isName_previousName : Path.IsName previousName := by
  constructor <;> decide

theorem isName_contentsName : Path.IsName contentsName := by
  constructor <;> decide

theorem isName_imagesetName {assetName : Text} (h : '/' ∉ assetName) :
    Path.IsName (imagesetName assetName) :=
  Path.isName_append h (by decide) ⟨'t', by decide, by decide⟩

/-- The directory of an image set is not a path from the root folder, whatever its icon. -/
theorem isAbsolute_imagesetName (icon : Identifier) :
    Path.isAbsolute ⟨imagesetName icon.assetName⟩ = false := by
  obtain ⟨c, cs, hcode⟩ := List.exists_cons_of_ne_nil icon.provider.code_ne_nil
  have hslash : c ≠ '/' := by
    rintro rfl
    have hmem : '/' ∈ icon.provider.code := by simp [hcode]
    exact absurd hmem (by cases icon.provider <;> decide)
  rw [Path.isAbsolute, imagesetName, Identifier.assetName, hcode]
  split <;> simpa using hslash

theorem nil_not_mem_pieces_imagesetName {assetName : Text}
    (h : [] ∉ Text.pieces '.' assetName) : [] ∉ Text.pieces '.' (imagesetName assetName) := by
  have hname : imagesetName assetName = assetName ++ '.' :: "imageset".toList := rfl
  rw [hname, Text.pieces_append_cons, List.mem_append]
  rintro (hfront | hback)
  · exact h hfront
  · exact absurd hback (by decide)

/-- The directory of an image set is inside of the directory of its catalog, however deep. -/
theorem not_up_of_mem_moves_imagesetName {raw piece : Text} {icon : Identifier}
    (hparse : Identifier.parse raw = some icon)
    (hpiece : piece ∈ Path.moves ⟨imagesetName icon.assetName⟩) : Disk.isUp piece = false :=
  Path.not_up_of_mem_pieces
    (nil_not_mem_pieces_imagesetName (Identifier.nil_not_mem_pieces_assetName hparse))
    (List.mem_of_mem_filter hpiece)

end Catalog

namespace Image

/-- The pieces of the name of an image between dots are not empty. -/
theorem nil_not_mem_pieces_fileName {icon : Identifier}
    (h : [] ∉ Text.pieces '.' icon.baseName) : [] ∉ Text.pieces '.' (fileName icon) := by
  have hsuffix : '.' ∉ if icon.modifier.isDefault then [] else '-' :: icon.modifier.name := by
    split <;> simp [icon.modifier.dot_not_mem_name]
  have hstem := Text.nil_not_mem_pieces_append (Identifier.nil_not_mem_pieces_fileStem h) hsuffix
  have hname : fileName icon = icon.fileStem ++
      (if icon.modifier.isDefault then [] else '-' :: icon.modifier.name) ++
        '.' :: "svg".toList := rfl
  rw [hname, Text.pieces_append_cons, List.mem_append]
  rintro (hfront | hback)
  · exact hstem hfront
  · exact absurd hback (by decide)

theorem isName_fileName {icon : Identifier} (h : '/' ∉ icon.baseName) :
    Path.IsName (fileName icon) := by
  refine Path.isName_append ?_ (by decide) ⟨'g', by decide, by decide⟩
  have hstem := Identifier.slash_not_mem_fileStem h
  split <;> simp [hstem, icon.modifier.slash_not_mem_name]

/-- The name of an image ends in its extension. -/
theorem getLast?_fileName (icon : Identifier) : (fileName icon).getLast? = some 'g' := by
  rw [fileName, List.getLast?_append_of_ne_nil _ (by decide)]
  decide

theorem fileName_ne_contentsName (icon : Identifier) : fileName icon ≠ Catalog.contentsName := by
  intro h
  have hlast := getLast?_fileName icon
  rw [h] at hlast
  exact absurd hlast (by decide)

/-- The path of an image ends in its name. -/
theorem exists_below_eq_child (root : Path) (icon : Identifier) :
    ∃ folder : Path, below root icon = folder.child (fileName icon) := by
  unfold below
  split <;> exact ⟨_, rfl⟩

/-- The last component of the path of an image is its name. -/
theorem fileName?_below (root : Path) {icon : Identifier} (h : '/' ∉ icon.baseName) :
    (below root icon).fileName? = some (fileName icon) := by
  obtain ⟨folder, hfolder⟩ := exists_below_eq_child root icon
  rw [hfolder, Path.fileName?_child folder (isName_fileName h)]

/-- The pieces of the path of an image are those of the root directory, a weight and the name of the
image. -/
theorem mem_pieces_below {root : Path} {icon : Identifier} (h : '/' ∉ icon.baseName) {t : Text}
    (ht : t ∈ Text.pieces '/' (below root icon).text) :
    t ∈ Text.pieces '/' root.text ∨ (∃ weight : Weight, t = weight.name) ∨ t = fileName icon := by
  unfold below at ht
  split at ht
  · next weight _ =>
    have hweight : Path.IsName weight.name := by
      constructor <;> cases weight <;> decide
    rcases Path.mem_pieces_child (isName_fileName h) ht with ht | ht
    · rcases Path.mem_pieces_child hweight ht with ht | ht
      · exact Or.inl ht
      · exact Or.inr (Or.inl ⟨weight, ht⟩)
    · exact Or.inr (Or.inr ht)
  · rcases Path.mem_pieces_child (isName_fileName h) ht with ht | ht
    · exact Or.inl ht
    · exact Or.inr (Or.inr ht)

end Image
end IconAssets
