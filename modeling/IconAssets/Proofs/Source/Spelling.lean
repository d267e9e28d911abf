import IconAssets.Proofs.Disk.Clear
import IconAssets.Proofs.Image.Template
import IconAssets.Proofs.Source.Calls
import IconAssets.Proofs.Source.Modes
import IconAssets.Source.Tree

/-!
# Identifiers that a scan finds

A scan looks for names that begin with the code of a provider and a dot, and go on with lower-case
letters, digits, dots and hyphens.  An identifier is read by its segments between the dots.  So the
two agree but for empty segments, which the scan does not see: a dot at the end, or two dots in a
row.

The asset name of an identifier that was found is made of the same characters.  So its image set and
its image have plain names, and a call with the asset name is found again.

* `IsIconSpelling.parse_eq_none_iff`: the names that are no identifiers;
* `IsIconSpelling.assetName`: asset names are spelled like icons;
* `references_callOf`: a call is found as it is written;
* `parse_reference`: all that a name that was found is good for.
-/

namespace IconAssets
namespace Source

variable {name s : Text}

/-- What is spelled like an icon is read as one unless two dots stand in a row or a dot at the
end. -/
theorem IsIconSpelling.parse_eq_none_iff (h : IsIconSpelling s) :
    Identifier.parse s = none ↔ s.getLast? = some '.' ∨ ['.', '.'] <:+: s := by
  obtain ⟨p, tail, rfl, -, -⟩ := h
  obtain ⟨c, cs, hcode⟩ := List.exists_cons_of_ne_nil p.code_ne_nil
  have hdot : c ≠ '.' := by
    rintro rfl
    exact p.dot_not_mem_code (by simp [hcode])
  have hwhole : [] ∈ Text.pieces '.' (p.code ++ '.' :: tail) ↔ [] ∈ Text.pieces '.' tail := by
    rw [Text.pieces_append_cons, Text.pieces_eq_singleton p.dot_not_mem_code, List.mem_append,
      List.mem_singleton, or_iff_right p.code_ne_nil.symm]
  rw [Identifier.parse_code_eq_none_iff, ← hwhole, Text.nil_mem_pieces_iff]
  simp [hcode, hdot]

/-- The asset name of an icon is spelled like an icon if the icon is. -/
theorem IsIconSpelling.assetName {icon : Identifier} (h : IsIconSpelling s)
    (hparse : Identifier.parse s = some icon) : IsIconSpelling icon.assetName := by
  have hchars := (isIconSpelling_iff.mp h).1
  refine ⟨icon.provider, icon.baseName ++ if icon.modifier.isDefault then [] else
    '.' :: icon.modifier.name, by simp [Identifier.assetName], ?_, fun c hc => ?_⟩
  · simp [Identifier.baseName_ne_nil hparse]
  · refine isNameChar_iff.mp (hchars c (Identifier.subset_assetName hparse ?_))
    simp only [Identifier.assetName, List.append_assoc, List.cons_append, List.mem_append,
      List.mem_cons] at hc ⊢
    exact Or.inr (Or.inr hc)

/-- A literal goes up to its quote. -/
theorem stripFrom_literal {x : Text} (hx : ∀ c ∈ x, c ≠ '\\' ∧ c ≠ '"' ∧ c ≠ '\n') (t : Text) :
    stripFrom .literal (x ++ '"' :: t) = x ++ '"' :: stripFrom .code t := by
  induction x with
  | nil =>
      simp [stripFrom]
  | cons c x ih =>
      obtain ⟨hescape, hquote, hnewline⟩ := hx c List.mem_cons_self
      rw [List.cons_append, stripFrom, ih fun c hc => hx c (List.mem_cons_of_mem _ hc),
        List.cons_append]
      · exact fun _ _ hc => absurd hc hescape
      · exact hquote
      · exact hnewline

/-- The shortest call with a name. -/
def callOf (name : Text) : Text := "Image(".toList ++ '"' :: (name ++ ['"', ')'])

theorem isCall_callOf (h : IsIconSpelling name) : IsCall (callOf name) name :=
  ⟨[], [], [], [], List.forall_mem_nil _, List.forall_mem_nil _, Or.inl rfl, List.forall_mem_nil _,
    h, rfl⟩

/-- A call is left as it is. -/
theorem stripComments_callOf (h : IsIconSpelling name) :
    stripComments (callOf name) = callOf name := by
  have hchars := (isIconSpelling_iff.mp h).1
  have hplain : ∀ c ∈ name, c ≠ '\\' ∧ c ≠ '"' ∧ c ≠ '\n' := by
    intro c hc
    refine ⟨?_, ?_, ?_⟩ <;> rintro rfl <;> exact absurd (hchars _ hc) (by decide)
  have hopen : ∀ cs, name ++ ['"', ')'] ≠ '"' :: '"' :: cs := by
    intro cs heq
    rcases List.append_eq_cons_iff.mp heq with ⟨rfl, -⟩ | ⟨rest, rfl, -⟩
    · obtain ⟨p, tail, hnil, -, -⟩ := h
      simp at hnil
    · exact (hplain '"' List.mem_cons_self).2.1 rfl
  have hliteral : stripFrom .code ('"' :: (name ++ ['"', ')'])) = '"' :: (name ++ ['"', ')']) := by
    rw [stripFrom, stripFrom_literal hplain]
    · simp [stripFrom]
    · exact hopen
  have hcode : endMode .code "Image(".toList = .code := by decide
  have hfront : stripFrom .code "Image(".toList = "Image(".toList := by decide
  have happend := @stripFrom_append .code "Image(".toList (name ++ ['"', ')']) '"' (by
    intro c hc
    obtain rfl : '(' = c := by simpa using hc
    rw [hcode]
    rfl)
  rw [hcode, hfront, hliteral] at happend
  exact happend

theorem references_callOf (h : IsIconSpelling name) : references (callOf name) = [name] := by
  have hnewline : '\n' ∉ callOf name := by
    have hname : '\n' ∉ name := fun hmem =>
      absurd ((isIconSpelling_iff.mp h).1 '\n' hmem) (by decide)
    intro hmem
    rcases List.mem_append.mp hmem with hword | hrest
    · exact absurd hword (by decide)
    · simp [hname] at hrest
  rw [references, calledNames, stripComments_callOf h, Text.pieces_eq_singleton hnewline,
    List.flatMap_singleton, callSites_of_isCall (isCall_callOf h)]
  rfl

/-- **A scan and the reading of identifiers agree.**  What was found is no identifier exactly if it
has an empty segment.  Otherwise its image is a file right in the directory of its provider or of
its weight there, its asset name is made of the characters of spellings, its image set is a visible
directory right in the catalog, and a call with the asset name is found as this name. -/
theorem parse_reference {source : Text} (h : s ∈ references source) :
    (Identifier.parse s = none ↔ s.getLast? = some '.' ∨ ['.', '.'] <:+: s) ∧
      ∀ icon, Identifier.parse s = some icon →
        (∀ roots root, roots.of icon.provider = some root →
          ∃ file, Path.IsName file ∧
            match icon.modifier with
            | .weight w => Path.IsName w.name ∧
                Image.pathOf? roots s = some ((root.child w.name).child file)
            | .variant _ => Image.pathOf? roots s = some (root.child file)) ∧
        (∀ c ∈ icon.assetName, 'a' ≤ c ∧ c ≤ 'z' ∨ '0' ≤ c ∧ c ≤ '9' ∨ c = '.' ∨ c = '-') ∧
        (Path.IsName (Catalog.imagesetName icon.assetName) ∧
          isHidden (Catalog.imagesetName icon.assetName) = false ∧
            ∀ (d : Disk) (catalog : Path),
              d.target (catalog.child (Catalog.imagesetName icon.assetName)) =
                d.target catalog ++ [Catalog.imagesetName icon.assetName]) ∧
        references (callOf icon.assetName) = [icon.assetName] := by
  have hspelling := isIconSpelling_of_mem_references h
  refine ⟨hspelling.parse_eq_none_iff, fun icon hparse => ?_⟩
  have hasset := hspelling.assetName hparse
  have hchars := (isIconSpelling_iff.mp hasset).1
  have hbase : '/' ∉ icon.baseName := Identifier.slash_not_mem_baseName hparse fun hslash =>
    absurd ((isIconSpelling_iff.mp hspelling).1 '/' hslash) (by decide)
  have hset := Catalog.isName_imagesetName (Identifier.slash_not_mem_assetName hbase)
  refine ⟨fun roots root hroot => ⟨Image.fileName icon, Image.isName_fileName hbase, ?_⟩,
    fun c hc => isNameChar_iff.mp (hchars c hc),
    ⟨hset, ?_, fun d catalog => Disk.target_child d catalog hset⟩, references_callOf hasset⟩
  · have hpath : Image.pathOf? roots s = some (Image.below root icon) := by
      simp [Image.pathOf?, Image.path?, hparse, hroot]
    cases hmodifier : icon.modifier with
    | weight w =>
        rw [Image.below, hmodifier] at hpath
        exact ⟨Image.isName_weight w, hpath⟩
    | variant v =>
        rw [Image.below, hmodifier] at hpath
        exact hpath
  · obtain ⟨p, tail, hname, -, -⟩ := hasset
    rw [hname]
    cases p <;> rfl

/-- A name with a hyphen and the word of the default modifier is found and read, and its asset name,
which leaves the word out, is found again. -/
theorem parse_reference_arrow :
    "ph.arrow-up.2.regular".toList ∈
        references "/* a */ Image ( icon :\t\"ph.arrow-up.2.regular\" )".toList ∧
      Identifier.parse "ph.arrow-up.2.regular".toList =
        some ⟨"arrow-up.2".toList, .weight .regular⟩ ∧
      references (callOf (Identifier.assetName ⟨"arrow-up.2".toList, .weight .regular⟩)) =
        [Identifier.assetName ⟨"arrow-up.2".toList, .weight .regular⟩] := by
  have hfound : "ph.arrow-up.2.regular".toList ∈
      references "/* a */ Image ( icon :\t\"ph.arrow-up.2.regular\" )".toList := by decide
  have hparse : Identifier.parse "ph.arrow-up.2.regular".toList =
      some ⟨"arrow-up.2".toList, .weight .regular⟩ := by decide
  exact ⟨hfound, hparse, ((parse_reference hfound).2 _ hparse).2.2.2⟩

end Source
end IconAssets
