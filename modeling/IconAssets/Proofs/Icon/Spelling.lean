import IconAssets.Icon.Identifier
import IconAssets.Proofs.Text.Pieces

/-!
# The spelling of identifiers

An identifier is spelled by the code of its provider and its segments with dots in between.  This
module relates the reading of a text to the segments the text is made of.

* `parse_eq_some_iff`: the texts that are read are the code of a provider and segments, glued;
* `splitModifier_append`: the last of several segments is a modifier if it names one;
* `glue_canonical`: the segments that spell the asset name of what segments spell.
-/

namespace IconAssets

/-- Segments of an identifier: at least one, all of them nonempty and without dots. -/
structure IsSegments (segments : List Text) : Prop where
  ne_nil : segments ≠ []
  segment_ne_nil : ∀ s ∈ segments, s ≠ []
  dot_not_mem : ∀ s ∈ segments, '.' ∉ s

namespace IsSegments

/-- The segments in front of the last one, if there are any. -/
theorem of_append_singleton {stem : List Text} {last : Text} (h : IsSegments (stem ++ [last]))
    (hstem : stem ≠ []) : IsSegments stem where
  ne_nil := hstem
  segment_ne_nil s hs := h.segment_ne_nil s (List.mem_append_left _ hs)
  dot_not_mem s hs := h.dot_not_mem s (List.mem_append_left _ hs)

end IsSegments

namespace Modifier

theorem dot_not_mem_name (m : Modifier) : '.' ∉ m.name := by
  rcases m with w | v
  · cases w <;> decide
  · cases v <;> decide

end Modifier

namespace Provider

theorem dot_not_mem_code (p : Provider) : '.' ∉ p.code := by
  cases p <;> decide

theorem code_ne_nil (p : Provider) : p.code ≠ [] := by
  cases p <;> decide

theorem isDefault_defaultModifier (p : Provider) : p.defaultModifier.isDefault = true := by
  cases p <;> rfl

/-- A single segment is the base name, whatever it says. -/
theorem splitModifier_singleton (p : Provider) (s : Text) :
    p.splitModifier [s] = ([s], p.defaultModifier) := rfl

/-- The last of several segments is a modifier if it names one, and else a part of the base
name. -/
theorem splitModifier_append (p : Provider) {stem : List Text} (hstem : stem ≠ []) (last : Text) :
    p.splitModifier (stem ++ [last]) =
      match p.modifier? last with
      | some m => (stem, m)
      | none => (stem ++ [last], p.defaultModifier) := by
  cases stem with
  | nil =>
      exact absurd rfl hstem
  | cons first more =>
      have hdrop : (first :: more ++ [last]).dropLast = first :: more := List.dropLast_concat
      have hlast : (first :: more ++ [last]).getLast? = some last := List.getLast?_concat
      cases hm : p.modifier? last <;>
        simp only [splitModifier, hdrop, hlast, hm]

theorem provider_splitModifier (p : Provider) (segments : List Text) :
    (p.splitModifier segments).2.provider = p := by
  rcases List.eq_nil_or_concat' segments with rfl | ⟨stem, last, rfl⟩
  · exact provider_defaultModifier p
  · by_cases hstem : stem = []
    · subst hstem
      exact provider_defaultModifier p
    · rw [splitModifier_append p hstem]
      cases hm : p.modifier? last with
      | none =>
          exact provider_defaultModifier p
      | some m =>
          exact provider_of_modifier? hm

theorem isSegments_splitModifier (p : Provider) {segments : List Text} (h : IsSegments segments) :
    IsSegments (p.splitModifier segments).1 := by
  rcases List.eq_nil_or_concat' segments with rfl | ⟨stem, last, rfl⟩
  · exact absurd rfl h.ne_nil
  · by_cases hstem : stem = []
    · subst hstem
      exact h
    · rw [splitModifier_append p hstem]
      cases p.modifier? last with
      | none =>
          exact h
      | some m =>
          exact h.of_append_singleton hstem

/-- The identifier that segments spell behind a provider's code. -/
def identifier (p : Provider) (segments : List Text) : Identifier :=
  ⟨Text.glue '.' (p.splitModifier segments).1, (p.splitModifier segments).2⟩

@[simp] theorem provider_identifier (p : Provider) (segments : List Text) :
    (p.identifier segments).provider = p :=
  provider_splitModifier p segments

end Provider

namespace Identifier

/-- What is read is the code of a provider and segments with dots in between, and it is read as
what the segments spell. -/
theorem parse_eq_some_iff {raw : Text} {i : Identifier} :
    parse raw = some i ↔
      ∃ p segments, IsSegments segments ∧ raw = Text.glue '.' (p.code :: segments) ∧
        i = Provider.identifier p segments := by
  constructor
  · intro h
    unfold parse at h
    split at h
    · next code first more hpieces =>
      split at h
      · cases h
      · next hne =>
        obtain ⟨p, hp, rfl⟩ := Option.map_eq_some_iff.mp h
        have hcode : code = p.code := Provider.ofCode?_eq_some_iff.mp hp
        subst hcode
        refine ⟨p, first :: more, ⟨by simp, ?_, ?_⟩, ?_, rfl⟩
        · rintro s hs rfl
          exact hne (List.mem_cons_of_mem _ hs)
        · intro s hs
          exact Text.not_mem_of_mem_pieces (t := raw) (by
            rw [hpieces]
            exact List.mem_cons_of_mem _ hs)
        · rw [← hpieces, Text.glue_pieces]
    · cases h
  · rintro ⟨p, segments, hseg, rfl, rfl⟩
    obtain ⟨hnil, hne, hdot⟩ := hseg
    cases segments with
    | nil =>
        exact absurd rfl hnil
    | cons first more =>
        have hpieces : Text.pieces '.' (Text.glue '.' (p.code :: first :: more)) =
            p.code :: first :: more := by
          refine Text.pieces_glue (by simp) fun s hs => ?_
          rcases List.mem_cons.mp hs with rfl | hs
          · exact p.dot_not_mem_code
          · exact hdot s hs
        have hempty : [] ∉ p.code :: first :: more := by
          intro hmem
          rcases List.mem_cons.mp hmem with h | h
          · exact p.code_ne_nil h.symm
          · exact hne [] h rfl
        unfold parse
        rw [hpieces]
        simp only [if_neg hempty, Provider.ofCode?_code, Option.map_some]
        rfl

/-- What segments spell is read back from them. -/
theorem parse_glue {p : Provider} {segments : List Text} (h : IsSegments segments) :
    parse (Text.glue '.' (p.code :: segments)) = some (Provider.identifier p segments) :=
  parse_eq_some_iff.mpr ⟨p, segments, h, rfl, rfl⟩

/-- The pieces of a spelled identifier are the code of the provider and the segments. -/
theorem pieces_glue_code {p : Provider} {segments : List Text} (h : IsSegments segments) :
    Text.pieces '.' (Text.glue '.' (p.code :: segments)) = p.code :: segments := by
  refine Text.pieces_glue (by simp) fun s hs => ?_
  rcases List.mem_cons.mp hs with rfl | hs
  · exact p.dot_not_mem_code
  · exact h.dot_not_mem s hs

/-- Behind the code of a provider and a dot, only an empty segment keeps a text from being read. -/
theorem parse_code_eq_none_iff {p : Provider} {t : Text} :
    parse (p.code ++ '.' :: t) = none ↔ [] ∈ Text.pieces '.' t := by
  obtain ⟨first, more, hmore⟩ := List.exists_cons_of_ne_nil (Text.pieces_ne_nil '.' t)
  have hpieces : Text.pieces '.' (p.code ++ '.' :: t) = p.code :: first :: more := by
    rw [Text.pieces_append_cons, Text.pieces_eq_singleton p.dot_not_mem_code, hmore]
    rfl
  unfold parse
  rw [hpieces, hmore]
  simp [p.code_ne_nil.symm, or_iff_not_imp_left]

/-- The segments behind the code that spell the asset name of what segments spell: without the
last one if it names the default. -/
def canonicalSegments (p : Provider) (segments : List Text) : List Text :=
  if (p.splitModifier segments).2.isDefault then (p.splitModifier segments).1 else segments

/-- The asset name of what segments spell is spelled by the canonical ones. -/
theorem glue_canonical {p : Provider} {segments : List Text} (h : IsSegments segments) :
    (Provider.identifier p segments).assetName =
      Text.glue '.' (p.code :: canonicalSegments p segments) := by
  have hname : (Provider.identifier p segments).assetName =
      p.code ++ '.' :: Text.glue '.' (p.splitModifier segments).1 ++
        if (p.splitModifier segments).2.isDefault then []
        else '.' :: (p.splitModifier segments).2.name := by
    rw [assetName, Provider.provider_identifier]
    rfl
  rcases List.eq_nil_or_concat' segments with rfl | ⟨stem, last, rfl⟩
  · exact absurd rfl h.ne_nil
  · by_cases hstem : stem = []
    · subst hstem
      rw [hname, canonicalSegments, List.nil_append, Provider.splitModifier_singleton,
        if_pos p.isDefault_defaultModifier, if_pos p.isDefault_defaultModifier, List.append_nil]
      rfl
    · have hcode := Text.glue_cons_of_ne_nil '.' p.code hstem
      rw [hname, canonicalSegments, Provider.splitModifier_append p hstem]
      cases hm : p.modifier? last with
      | none =>
          simp only [p.isDefault_defaultModifier, if_true, List.append_nil]
          exact (Text.glue_cons_of_ne_nil '.' p.code (by simp)).symm
      | some m =>
          have hword : m.name = last := (Provider.modifier?_eq_some_iff.mp hm).2
          cases hdefault : m.isDefault with
          | true =>
              simp only [if_true, List.append_nil]
              exact hcode.symm
          | false =>
              simp only [Bool.false_eq_true, if_false]
              rw [← List.cons_append, Text.glue_append_singleton '.' (by simp), hcode, hword]

theorem isSegments_canonical {p : Provider} {segments : List Text} (h : IsSegments segments) :
    IsSegments (canonicalSegments p segments) := by
  unfold canonicalSegments
  split
  · exact p.isSegments_splitModifier h
  · exact h

end Identifier

end IconAssets
