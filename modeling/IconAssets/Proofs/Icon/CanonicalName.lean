import IconAssets.Proofs.Icon.Spelling

/-!
# Reading canonical names

An asset name leaves the default modifier out.  What is left may end in a segment that names a
modifier itself, and is then read as another icon.

* `parse_assetName`: an asset name is read as what its canonical segments spell;
* `parse_assetName_iff`: it is read as its own icon unless the default is left out behind a base
  name that ends in a modifier;
* `eq_of_assetName_eq`: other icons do not share their asset names.
-/

namespace IconAssets
namespace Identifier

/-- The base name goes on behind a dot with the word of a modifier, and ends there. -/
def EndsInModifier (i : Identifier) : Prop :=
  ∃ m ∈ i.provider.namedModifiers, ∃ stem, i.baseName = stem ++ '.' :: m.name

/-- An asset name is read as what its canonical segments spell. -/
theorem parse_assetName {p : Provider} {segments : List Text} (h : IsSegments segments) :
    parse (Provider.identifier p segments).assetName =
      some (Provider.identifier p (canonicalSegments p segments)) := by
  rw [glue_canonical h]
  exact parse_glue (isSegments_canonical h)

/-- Segments that spell a base name end in a modifier exactly if the last one names it. -/
theorem endsInModifier_glue_iff {p : Provider} {m : Modifier} {stem : List Text} {last : Text}
    (hm : m.provider = p) (hstem : stem ≠ []) (hlast : '.' ∉ last) :
    EndsInModifier ⟨Text.glue '.' (stem ++ [last]), m⟩ ↔ (p.modifier? last).isSome := by
  subst hm
  rw [Option.isSome_iff_exists]
  constructor
  · rintro ⟨n, hn, front, hbase⟩
    have hpieces := congrArg (Text.pieces '.') hbase
    rw [Text.glue_append_singleton '.' hstem, Text.pieces_append_cons, Text.pieces_append_cons,
      Text.pieces_eq_singleton hlast, Text.pieces_eq_singleton n.dot_not_mem_name] at hpieces
    have hword : last = n.name := List.singleton_inj.mp (List.append_inj_right' hpieces rfl)
    exact ⟨n, Provider.modifier?_eq_some_iff.mpr ⟨hn, hword.symm⟩⟩
  · rintro ⟨n, hn⟩
    obtain ⟨hmem, rfl⟩ := Provider.modifier?_eq_some_iff.mp hn
    exact ⟨n, hmem, Text.glue '.' stem, Text.glue_append_singleton '.' hstem n.name⟩

/-- A single segment does not end in a modifier. -/
theorem not_endsInModifier_of_dot_not_mem {i : Identifier} (h : '.' ∉ i.baseName) :
    ¬i.EndsInModifier := by
  rintro ⟨m, _, stem, hbase⟩
  exact h (by simp [hbase])

/-- Segments that are read again as a base name behind a left out default spell the same icon
exactly if they do not end in a modifier. -/
theorem identifier_base_eq_iff {p : Provider} {base : List Text} (h : IsSegments base) :
    Provider.identifier p base = ⟨Text.glue '.' base, p.defaultModifier⟩ ↔
      ¬EndsInModifier ⟨Text.glue '.' base, p.defaultModifier⟩ := by
  rcases List.eq_nil_or_concat' base with rfl | ⟨stem, last, rfl⟩
  · exact absurd rfl h.ne_nil
  · have hlast : '.' ∉ last := h.dot_not_mem last (by simp)
    by_cases hstem : stem = []
    · subst hstem
      exact iff_of_true rfl (not_endsInModifier_of_dot_not_mem hlast)
    · rw [endsInModifier_glue_iff p.provider_defaultModifier hstem hlast, Provider.identifier,
        Provider.splitModifier_append p hstem]
      cases p.modifier? last with
      | none =>
          simp
      | some m =>
          have hshorter : Text.glue '.' stem ≠ Text.glue '.' (stem ++ [last]) := by
            rw [Text.glue_append_singleton '.' hstem]
            simp
          simp [hshorter]

/-- The canonical segments spell the same icon unless the default modifier is left out behind a base
name that ends in a modifier. -/
theorem identifier_canonicalSegments_eq_iff {p : Provider} {segments : List Text}
    (h : IsSegments segments) :
    Provider.identifier p (canonicalSegments p segments) = Provider.identifier p segments ↔
      ¬((Provider.identifier p segments).modifier.isDefault = true ∧
        (Provider.identifier p segments).EndsInModifier) := by
  have hmodifier : (Provider.identifier p segments).modifier = (p.splitModifier segments).2 := rfl
  rw [hmodifier, canonicalSegments]
  by_cases hdefault : (p.splitModifier segments).2.isDefault = true
  · have hthis : (p.splitModifier segments).2 = p.defaultModifier := by
      have heq := hdefault
      rw [Modifier.isDefault, decide_eq_true_eq, Provider.provider_splitModifier] at heq
      exact heq
    have hbase : Provider.identifier p segments =
        ⟨Text.glue '.' (p.splitModifier segments).1, p.defaultModifier⟩ := by
      rw [Provider.identifier, hthis]
    rw [if_pos hdefault, hbase, identifier_base_eq_iff (p.isSegments_splitModifier h)]
    simp [hdefault]
  · simp [hdefault]

/-- Icons with the same asset name are the same, unless one of them leaves the default modifier out
behind a base name that ends in a modifier. -/
theorem eq_of_assetName_eq {raw other : Text} {i j : Identifier} (hi : parse raw = some i)
    (hj : parse other = some j) (hname : i.assetName = j.assetName)
    (hiplain : ¬(i.modifier.isDefault = true ∧ i.EndsInModifier))
    (hjplain : ¬(j.modifier.isDefault = true ∧ j.EndsInModifier)) : i = j := by
  obtain ⟨p, segments, hsegments, -, rfl⟩ := parse_eq_some_iff.mp hi
  obtain ⟨q, others, hothers, -, rfl⟩ := parse_eq_some_iff.mp hj
  have hread := parse_assetName (p := p) hsegments
  rw [hname, parse_assetName hothers, Option.some_inj,
    (identifier_canonicalSegments_eq_iff hsegments).mpr hiplain,
    (identifier_canonicalSegments_eq_iff hothers).mpr hjplain] at hread
  exact hread.symm

/-- **The canonical name of an identifier is read as this identifier** unless the default modifier
is left out behind a base name that ends in a modifier, and then it never is. -/
theorem parse_assetName_iff {raw : Text} {i : Identifier} (h : parse raw = some i) :
    parse i.assetName = some i ↔ ¬(i.modifier.isDefault = true ∧ i.EndsInModifier) := by
  obtain ⟨p, segments, hsegments, -, rfl⟩ := parse_eq_some_iff.mp h
  rw [parse_assetName hsegments, Option.some_inj]
  exact identifier_canonicalSegments_eq_iff hsegments

/-- `ion.pin.sharp.outline` names no default, so its canonical name is itself. -/
theorem parse_assetName_pin :
    parse "ion.pin.sharp.outline".toList = some ⟨"pin.sharp".toList, .variant .outline⟩ ∧
      (parse (assetName ⟨"pin.sharp".toList, .variant .outline⟩) =
          some ⟨"pin.sharp".toList, .variant .outline⟩ ↔
        ¬((Modifier.variant .outline).isDefault = true ∧
          EndsInModifier ⟨"pin.sharp".toList, .variant .outline⟩)) :=
  ⟨by decide, @parse_assetName_iff "ion.pin.sharp.outline".toList _ (by decide)⟩

/-- `ph.house.fill.regular` is the regular icon `house.fill`; its canonical name `ph.house.fill`
is read as the filled icon `house`. -/
theorem parse_assetName_house :
    parse "ph.house.fill.regular".toList = some ⟨"house.fill".toList, .weight .regular⟩ ∧
      parse (assetName ⟨"house.fill".toList, .weight .regular⟩) =
        some ⟨"house".toList, .weight .fill⟩ ∧
      parse (assetName ⟨"house.fill".toList, .weight .regular⟩) ≠
        some ⟨"house.fill".toList, .weight .regular⟩ := by
  decide

end Identifier
end IconAssets
