import IconAssets.Proofs.Icon.Spelling

/-!
# The grammar of identifiers

Which texts are identifiers, and which icons they spell, told by putting texts together: a text is
the code of a provider and its segments, with dots in between.  The reader cuts a text at its dots
instead.

* `IsReading`: a text, taken as the code of a provider and segments, spells an icon;
* `isReading_iff`: what is spelled is what the reader makes of the segments;
* `IsReading.unique`: a text can be taken in one way only;
* `parse_iff_exists_isReading`: the reader finds this way if there is one.
-/

namespace IconAssets

namespace Provider

/-- Segments that go on behind others with the word of a modifier, and end there. -/
def NamesAtEnd (p : Provider) (stem segments : List Text) (m : Modifier) : Prop :=
  stem ≠ [] ∧ m ∈ p.namedModifiers ∧ segments = stem ++ [m.name]

/-- The last segment is taken for the modifier that it names. -/
theorem splitModifier_of_namesAtEnd {p : Provider} {stem segments : List Text} {m : Modifier}
    (h : p.NamesAtEnd stem segments m) : p.splitModifier segments = (stem, m) := by
  obtain ⟨hstem, hm, rfl⟩ := h
  have hword : p.modifier? m.name = some m := modifier?_eq_some_iff.mpr ⟨hm, rfl⟩
  rw [splitModifier_append p hstem, hword]

/-- Segments of which the last one names no modifier, or is the only one, are a base name. -/
theorem splitModifier_of_not_namesAtEnd {p : Provider} {segments : List Text}
    (h : ¬∃ stem m, p.NamesAtEnd stem segments m) :
    p.splitModifier segments = (segments, p.defaultModifier) := by
  rcases List.eq_nil_or_concat' segments with rfl | ⟨stem, last, rfl⟩
  · rfl
  · by_cases hstem : stem = []
    · subst hstem
      rfl
    · cases hm : p.modifier? last with
      | none =>
          rw [splitModifier_append p hstem, hm]
      | some m =>
          obtain ⟨hmem, rfl⟩ := modifier?_eq_some_iff.mp hm
          exact absurd ⟨stem, m, hstem, hmem, rfl⟩ h

/-- Segments end in one modifier at most. -/
theorem NamesAtEnd.unique {p : Provider} {stem stem' segments : List Text} {m m' : Modifier}
    (h : p.NamesAtEnd stem segments m) (h' : p.NamesAtEnd stem' segments m') :
    stem = stem' ∧ m = m' :=
  Prod.mk.inj ((splitModifier_of_namesAtEnd h).symm.trans (splitModifier_of_namesAtEnd h'))

theorem identifier_of_namesAtEnd {p : Provider} {stem segments : List Text} {m : Modifier}
    (h : p.NamesAtEnd stem segments m) : p.identifier segments = ⟨Text.glue '.' stem, m⟩ := by
  rw [identifier, splitModifier_of_namesAtEnd h]

theorem identifier_of_not_namesAtEnd {p : Provider} {segments : List Text}
    (h : ¬∃ stem m, p.NamesAtEnd stem segments m) :
    p.identifier segments = ⟨Text.glue '.' segments, p.defaultModifier⟩ := by
  rw [identifier, splitModifier_of_not_namesAtEnd h]

/-- The modifier that segments spell is one that the provider has a word for, or its default. -/
theorem modifier_identifier (p : Provider) (segments : List Text) :
    (p.identifier segments).modifier = p.defaultModifier ∨
      (p.identifier segments).modifier ∈ p.namedModifiers := by
  by_cases h : ∃ stem m, p.NamesAtEnd stem segments m
  · obtain ⟨stem, m, hend⟩ := h
    rw [identifier_of_namesAtEnd hend]
    exact .inr hend.2.1
  · rw [identifier_of_not_namesAtEnd h]
    exact .inl rfl

end Provider

namespace Identifier

/-- A text spells an icon, with the code of a provider and with segments.  The last of several
segments is the modifier if it names one; otherwise all of them are the base name. -/
structure IsReading (raw : Text) (p : Provider) (segments : List Text) (i : Identifier) : Prop where
  isSegments : IsSegments segments
  spelled : raw = Text.glue '.' (p.code :: segments)
  provider : i.provider = p
  parts :
    (∃ stem, p.NamesAtEnd stem segments i.modifier ∧ i.baseName = Text.glue '.' stem) ∨
      (¬∃ stem m, p.NamesAtEnd stem segments m) ∧
        i.baseName = Text.glue '.' segments ∧ i.modifier = p.defaultModifier

variable {raw : Text} {p q : Provider} {segments others : List Text} {i j : Identifier}

/-- What a text spells is what its segments spell. -/
theorem isReading_iff :
    IsReading raw p segments i ↔
      IsSegments segments ∧ raw = Text.glue '.' (p.code :: segments) ∧
        i = Provider.identifier p segments := by
  constructor
  · rintro ⟨hsegments, hraw, -, ⟨stem, hend, hbase⟩ | ⟨hend, hbase, hmodifier⟩⟩
    · rw [Provider.identifier_of_namesAtEnd hend, ← hbase]
      exact ⟨hsegments, hraw, rfl⟩
    · rw [Provider.identifier_of_not_namesAtEnd hend, ← hbase, ← hmodifier]
      exact ⟨hsegments, hraw, rfl⟩
  · rintro ⟨hsegments, hraw, rfl⟩
    refine ⟨hsegments, hraw, Provider.provider_identifier p segments, ?_⟩
    by_cases hend : ∃ stem m, p.NamesAtEnd stem segments m
    · obtain ⟨stem, m, hend⟩ := hend
      rw [Provider.identifier_of_namesAtEnd hend]
      exact .inl ⟨stem, hend, rfl⟩
    · rw [Provider.identifier_of_not_namesAtEnd hend]
      exact .inr ⟨hend, rfl, rfl⟩

/-- The dots of a text tell its code and its segments, and these tell the icon. -/
theorem IsReading.unique (h : IsReading raw p segments i) (h' : IsReading raw q others j) :
    p = q ∧ segments = others ∧ i = j := by
  obtain ⟨hsegments, hraw, rfl⟩ := isReading_iff.mp h
  obtain ⟨hothers, hraw', rfl⟩ := isReading_iff.mp h'
  have hpieces := congrArg (Text.pieces '.') (hraw.symm.trans hraw')
  rw [pieces_glue_code hsegments, pieces_glue_code hothers] at hpieces
  obtain ⟨hcode, rfl⟩ := List.cons.inj hpieces
  obtain rfl := Provider.code_injective hcode
  exact ⟨rfl, rfl, rfl⟩

/-- **A text is read as an icon just if it spells it**, with the code of the icon's provider and
with segments.  A text spells one icon at most, in one way only, and the modifier of an icon is one
that its provider has: the default, or one that it has a word for. -/
theorem parse_iff_exists_isReading (raw : Text) :
    (∀ i, parse raw = some i ↔ ∃ p segments, IsReading raw p segments i) ∧
    (∀ p q segments others i j, IsReading raw p segments i → IsReading raw q others j →
      p = q ∧ segments = others ∧ i = j) ∧
    ∀ i, parse raw = some i →
      i.modifier = i.provider.defaultModifier ∨ i.modifier ∈ i.provider.namedModifiers := by
  refine ⟨fun i => ?_, fun p q segments others i j => IsReading.unique, fun i h => ?_⟩
  · simp only [isReading_iff, parse_eq_some_iff]
  · obtain ⟨p, segments, -, -, rfl⟩ := parse_eq_some_iff.mp h
    rw [Provider.provider_identifier]
    exact p.modifier_identifier segments

/-- `ph.bold.fill` is the filled icon `bold`; its first segment is no modifier of it. -/
theorem parse_iff_exists_isReading_bold :
    IsReading "ph.bold.fill".toList .phosphor ["bold".toList, "fill".toList]
        ⟨"bold".toList, .weight .fill⟩ ∧
      parse "ph.bold.fill".toList = some ⟨"bold".toList, .weight .fill⟩ ∧
      (∀ p segments i, IsReading "ph.bold.fill".toList p segments i →
        p = .phosphor ∧ segments = ["bold".toList, "fill".toList] ∧
          i = ⟨"bold".toList, .weight .fill⟩) ∧
      (Modifier.weight .fill = Provider.phosphor.defaultModifier ∨
        Modifier.weight .fill ∈ Provider.phosphor.namedModifiers) := by
  obtain ⟨hread, hunique, hmodifier⟩ := parse_iff_exists_isReading "ph.bold.fill".toList
  have h : IsReading "ph.bold.fill".toList .phosphor ["bold".toList, "fill".toList]
      ⟨"bold".toList, .weight .fill⟩ :=
    ⟨⟨by decide, by decide, by decide⟩, by decide, rfl,
      .inl ⟨["bold".toList], ⟨by decide, by decide, by decide⟩, rfl⟩⟩
  have hparse := (hread _).mpr ⟨_, _, h⟩
  exact ⟨h, hparse, fun p segments i hi => hunique _ _ _ _ _ _ hi h, hmodifier _ hparse⟩

end Identifier

/-!
## Spellings with one asset name

An asset name is the spelling of an icon without its last segment if this names the default.  Only
Phosphor has a word for its default.  So two spellings share their asset name if the longer one goes
on behind the shorter one with this word, once.

* `EndsInRegular`: the spellings that are longer than their asset names;
* `assetName_cases`: what an asset name is of a spelling;
* `assetName_eq_assetName_iff`: which spellings share their asset names.
-/

namespace Identifier

/-- A dot and the word of the default weight. -/
def regularEnd : Text := '.' :: Weight.regular.name

/-- A spelling that ends in the word of the default weight, with a base name in front. -/
def EndsInRegular (raw : Text) : Prop :=
  ∃ base, base ≠ [] ∧ raw = Provider.phosphor.code ++ '.' :: base ++ regularEnd

/-- A spelling goes on behind another one with the word of the default weight, in which the other
one does not end already. -/
def Lengthens (long short : Text) : Prop := long = short ++ regularEnd ∧ ¬EndsInRegular short

variable {p : Provider} {segments : List Text} {raw other : Text} {i j : Identifier}

/-- Only Phosphor has a word for its default. -/
theorem eq_regular_of_isDefault {m : Modifier} (hm : m ∈ p.namedModifiers)
    (hdefault : m.isDefault = true) : p = .phosphor ∧ m = .weight .regular := by
  cases p with
  | phosphor =>
      obtain ⟨w, -, rfl⟩ := List.mem_map.mp hm
      cases w with
      | regular => exact ⟨rfl, rfl⟩
      | _ => exact absurd hdefault (by decide)
  | ionicons =>
      obtain ⟨v, hv, rfl⟩ := List.mem_map.mp hm
      cases v with
      | filled => exact absurd hv (by decide)
      | _ => exact absurd hdefault (by decide)

/-- The canonical segments are all of them, or all but the word of the default weight. -/
theorem canonicalSegments_cases (p : Provider) (segments : List Text) :
    (∃ stem, p.NamesAtEnd stem segments (.weight .regular) ∧
        canonicalSegments p segments = stem) ∨
      (¬∃ stem, p.NamesAtEnd stem segments (.weight .regular)) ∧
        canonicalSegments p segments = segments := by
  by_cases hend : ∃ stem m, p.NamesAtEnd stem segments m
  · obtain ⟨stem, m, hend⟩ := hend
    rw [canonicalSegments, Provider.splitModifier_of_namesAtEnd hend]
    by_cases hdefault : m.isDefault = true
    · obtain ⟨-, rfl⟩ := eq_regular_of_isDefault hend.2.1 hdefault
      exact .inl ⟨stem, hend, if_pos hdefault⟩
    · refine .inr ⟨?_, if_neg hdefault⟩
      rintro ⟨stem', hregular⟩
      obtain ⟨-, rfl⟩ := hend.unique hregular
      exact hdefault rfl
  · have hnone : ¬∃ stem, p.NamesAtEnd stem segments (.weight .regular) := by
      rintro ⟨stem, hstem⟩
      exact hend ⟨stem, _, hstem⟩
    rw [canonicalSegments, Provider.splitModifier_of_not_namesAtEnd hend, ite_self]
    exact .inr ⟨hnone, rfl⟩

/-- Segments in a row are not the empty text. -/
theorem glue_ne_nil (h : IsSegments segments) : Text.glue '.' segments ≠ [] := by
  intro hnil
  have hpieces := Text.pieces_glue h.ne_nil h.dot_not_mem
  rw [hnil, Text.pieces_nil] at hpieces
  exact h.segment_ne_nil [] (by simp [← hpieces]) rfl

/-- A spelling ends in the word of the default weight if its segments do. -/
theorem endsInRegular_glue_iff (h : IsSegments segments) :
    EndsInRegular (Text.glue '.' (p.code :: segments)) ↔
      ∃ stem, p.NamesAtEnd stem segments (.weight .regular) := by
  constructor
  · rintro ⟨base, hbase, hraw⟩
    have hdot : '.' ∉ Weight.regular.name := by decide
    have hpieces := congrArg (Text.pieces '.') hraw
    rw [pieces_glue_code h, regularEnd, List.append_assoc, List.cons_append,
      Text.pieces_append_cons, Text.pieces_append_cons,
      Text.pieces_eq_singleton Provider.phosphor.dot_not_mem_code,
      Text.pieces_eq_singleton hdot] at hpieces
    obtain ⟨hcode, rfl⟩ := List.cons.inj hpieces
    obtain rfl := Provider.code_injective hcode
    exact ⟨_, Text.pieces_ne_nil '.' base, by decide, rfl⟩
  · rintro ⟨stem, hstem, hregular, rfl⟩
    obtain ⟨rfl, -⟩ := eq_regular_of_isDefault hregular rfl
    refine ⟨Text.glue '.' stem, glue_ne_nil (h.of_append_singleton hstem), ?_⟩
    rw [Text.glue_cons_of_ne_nil '.' _ (by simp), Text.glue_append_singleton '.' hstem, regularEnd,
      List.append_assoc, List.cons_append]
    rfl

/-- An asset name is the spelling itself, or without the word of the default weight at its end. -/
theorem assetName_cases (h : parse raw = some i) :
    (EndsInRegular raw ∧ raw = i.assetName ++ regularEnd) ∨
      (¬EndsInRegular raw ∧ raw = i.assetName) := by
  obtain ⟨p, segments, hsegments, rfl, rfl⟩ := parse_eq_some_iff.mp h
  rw [endsInRegular_glue_iff hsegments, glue_canonical hsegments]
  rcases canonicalSegments_cases p segments with ⟨stem, hend, hcanonical⟩ | ⟨hend, hcanonical⟩
  · refine .inl ⟨⟨stem, hend⟩, ?_⟩
    obtain ⟨hstem, -, rfl⟩ := hend
    rw [hcanonical, ← List.cons_append, Text.glue_append_singleton '.' (by simp)]
    rfl
  · exact .inr ⟨hend, by rw [hcanonical]⟩

/-- An asset name tells the provider. -/
theorem provider_eq_of_assetName_eq (hi : parse raw = some i) (hj : parse other = some j)
    (hname : i.assetName = j.assetName) : i.provider = j.provider := by
  obtain ⟨p, segments, hsegments, -, rfl⟩ := parse_eq_some_iff.mp hi
  obtain ⟨q, others, hothers, -, rfl⟩ := parse_eq_some_iff.mp hj
  rw [glue_canonical hsegments, glue_canonical hothers] at hname
  have hpieces := congrArg (Text.pieces '.') hname
  rw [pieces_glue_code (isSegments_canonical hsegments),
    pieces_glue_code (isSegments_canonical hothers)] at hpieces
  rw [Provider.provider_identifier, Provider.provider_identifier]
  exact Provider.code_injective (List.cons.inj hpieces).1

/-- The spelling of an Ionicons icon does not end in the word of the default weight. -/
theorem provider_eq_phosphor_of_endsInRegular (h : parse raw = some i) (hraw : EndsInRegular raw) :
    i.provider = .phosphor := by
  obtain ⟨p, segments, hsegments, rfl, rfl⟩ := parse_eq_some_iff.mp h
  obtain ⟨stem, -, hregular, -⟩ := (endsInRegular_glue_iff hsegments).mp hraw
  rw [Provider.provider_identifier]
  exact (eq_regular_of_isDefault hregular rfl).1

/-- Behind the spelling of a Phosphor icon, the word of the default weight has a base name in
front. -/
theorem endsInRegular_append (h : parse raw = some i) (hprovider : i.provider = .phosphor) :
    EndsInRegular (raw ++ regularEnd) := by
  obtain ⟨p, segments, hsegments, rfl, rfl⟩ := parse_eq_some_iff.mp h
  rw [Provider.provider_identifier] at hprovider
  subst hprovider
  exact ⟨Text.glue '.' segments, glue_ne_nil hsegments, by
    rw [Text.glue_cons_of_ne_nil '.' _ hsegments.ne_nil]⟩

/-- A spelling that is lengthened by the word of the default weight keeps its asset name. -/
theorem assetName_eq_of_lengthens (hi : parse raw = some i) (hj : parse other = some j)
    (hprovider : j.provider = .phosphor) (h : Lengthens raw other) :
    i.assetName = j.assetName := by
  obtain ⟨rfl, hother⟩ := h
  rcases assetName_cases hi with ⟨-, hraw⟩ | ⟨hraw, -⟩
  · rcases assetName_cases hj with ⟨hends, -⟩ | ⟨-, hname⟩
    · exact absurd hends hother
    · exact (List.append_cancel_right hraw).symm.trans hname
  · exact absurd (endsInRegular_append hj hprovider) hraw

/-- **Two spellings share their asset name just if they are the same, or one of them is the other
one and the word of the default weight, in which the other one does not end already.**  Then both
are of Phosphor: different spellings of Ionicons icons have different asset names, and so have
spellings of icons of different providers. -/
theorem assetName_eq_assetName_iff (hi : parse raw = some i) (hj : parse other = some j) :
    (i.assetName = j.assetName ↔
      raw = other ∨ ((Lengthens raw other ∨ Lengthens other raw) ∧
        i.provider = .phosphor ∧ j.provider = .phosphor)) ∧
    (i.provider = .ionicons → j.provider = .ionicons → i.assetName = j.assetName → raw = other) ∧
    (i.assetName = j.assetName → i.provider = j.provider) := by
  have hiff : i.assetName = j.assetName ↔
      raw = other ∨ ((Lengthens raw other ∨ Lengthens other raw) ∧
        i.provider = .phosphor ∧ j.provider = .phosphor) := by
    constructor
    · intro hname
      have hprovider := provider_eq_of_assetName_eq hi hj hname
      rcases assetName_cases hi with ⟨hends, hraw⟩ | ⟨hends, hraw⟩ <;>
        rcases assetName_cases hj with ⟨hends', hother⟩ | ⟨hends', hother⟩
      · exact .inl (by rw [hraw, hother, hname])
      · have hphosphor := provider_eq_phosphor_of_endsInRegular hi hends
        have hlonger : Lengthens raw other := ⟨by rw [hraw, hother, hname], hends'⟩
        exact .inr ⟨.inl hlonger, hphosphor, hprovider ▸ hphosphor⟩
      · have hphosphor := provider_eq_phosphor_of_endsInRegular hj hends'
        have hlonger : Lengthens other raw := ⟨by rw [hraw, hother, hname], hends⟩
        exact .inr ⟨.inr hlonger, hprovider ▸ hphosphor, hphosphor⟩
      · exact .inl (by rw [hraw, hother, hname])
    · rintro (rfl | ⟨hlonger | hlonger, hphosphor, hphosphor'⟩)
      · rw [Option.some_inj.mp (hi.symm.trans hj)]
      · exact assetName_eq_of_lengthens hi hj hphosphor' hlonger
      · exact (assetName_eq_of_lengthens hj hi hphosphor hlonger).symm
  refine ⟨hiff, fun hionicons _ hname => ?_, provider_eq_of_assetName_eq hi hj⟩
  rcases hiff.mp hname with heq | ⟨-, hphosphor, -⟩
  · exact heq
  · rw [hionicons] at hphosphor
    cases hphosphor

/-- `ph.regular` has no base name in front of its last segment, and so shares its asset name with
`ph.regular.regular`. -/
theorem assetName_eq_assetName_iff_regular :
    parse "ph.regular.regular".toList = some ⟨"regular".toList, .weight .regular⟩ ∧
      parse "ph.regular".toList = some ⟨"regular".toList, .weight .regular⟩ ∧
      (Lengthens "ph.regular.regular".toList "ph.regular".toList ∨
        Lengthens "ph.regular".toList "ph.regular.regular".toList) := by
  have hlong : parse "ph.regular.regular".toList = some ⟨"regular".toList, .weight .regular⟩ := by
    decide
  have hshort : parse "ph.regular".toList = some ⟨"regular".toList, .weight .regular⟩ := by
    decide
  rcases (assetName_eq_assetName_iff hlong hshort).1.mp rfl with heq | ⟨hlonger, -, -⟩
  · exact absurd heq (by decide)
  · exact ⟨hlong, hshort, hlonger⟩

end Identifier

end IconAssets
