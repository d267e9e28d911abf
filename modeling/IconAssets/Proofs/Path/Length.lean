import IconAssets.Proofs.Path.Moves

/-!
# The length of paths

How many bytes a path has, and which characters, when it is put together from others or cut.  A path
can be followed if it is not too long and has no character that paths cannot hold.

* `le_byteLength_join`: a path below another;
* `byteLength_parent?_child`: the parent of a path that ends in a name;
* `textFault?_eq_none_iff`, `textFault?_of_child`: when a path can be followed;
* `slashed_absolute`: what stands in front of a relative path.
-/

namespace IconAssets

namespace Text

@[simp] theorem byteLength_nil : byteLength [] = 0 := rfl

@[simp] theorem byteLength_cons (c : Char) (t : Text) :
    byteLength (c :: t) = c.utf8Size + byteLength t := rfl

@[simp] theorem byteLength_append (t u : Text) :
    byteLength (t ++ u) = byteLength t + byteLength u := by
  induction t with
  | nil =>
      simp
  | cons c cs ih =>
      rw [List.cons_append, byteLength_cons, byteLength_cons, ih, Nat.add_assoc]

/-- Each character takes at least one byte. -/
theorem length_le_byteLength (t : Text) : t.length ≤ byteLength t := by
  induction t with
  | nil =>
      simp
  | cons c cs ih =>
      have hsize := c.utf8Size_pos
      rw [List.length_cons, byteLength_cons]
      omega

/-- Fewer pieces are not longer when they are glued. -/
theorem byteLength_glue_le {sep : Char} {ps qs : List Text} (h : ps <+: qs) :
    byteLength (glue sep ps) ≤ byteLength (glue sep qs) := by
  induction ps generalizing qs with
  | nil =>
      exact Nat.zero_le _
  | cons p ps ih =>
      obtain ⟨rest, rfl, hrest⟩ := List.cons_prefix_iff.mp h
      cases ps with
      | nil =>
          cases rest with
          | nil =>
              exact Nat.le_refl _
          | cons r rs =>
              rw [glue_cons_cons, glue_singleton, byteLength_append]
              omega
      | cons p' ps =>
          obtain ⟨rest', rfl, -⟩ := List.cons_prefix_iff.mp hrest
          have htail := ih hrest
          rw [glue_cons_cons, glue_cons_cons, byteLength_append, byteLength_append,
            byteLength_cons, byteLength_cons]
          omega

theorem byteLength_glue_append_singleton (sep : Char) (ps : List Text) (p : Text) :
    byteLength (glue sep ps) + byteLength p ≤ byteLength (glue sep (ps ++ [p])) := by
  by_cases hps : ps = []
  · subst hps
    simp
  · rw [glue_append_singleton sep hps, byteLength_append, byteLength_cons]
    omega

end Text

namespace Path

open Text

variable {p q : Path} {name : Text}

theorem byteLength_slashed (p : Path) :
    byteLength p.text ≤ byteLength p.slashed ∧ byteLength p.slashed ≤ byteLength p.text + 1 := by
  have hslash : byteLength ['/'] = 1 := by decide
  unfold slashed
  split
  · omega
  · rw [byteLength_append, hslash]
    omega

theorem le_byteLength_join (hq : q.isAbsolute = false) :
    byteLength p.text + byteLength q.text ≤ byteLength (p.join q).text := by
  have hp := (byteLength_slashed p).1
  rw [text_join hq, byteLength_append]
  omega

theorem mem_slashed {c : Char} (h : c ∈ p.slashed) : c ∈ p.text ∨ c = '/' := by
  unfold slashed at h
  split at h
  · exact Or.inl h
  · simpa using h

theorem mem_text_join {c : Char} (hq : q.isAbsolute = false) (h : c ∈ (p.join q).text) :
    c ∈ p.text ∨ c = '/' ∨ c ∈ q.text := by
  rw [text_join hq, List.mem_append] at h
  rcases h with hp | hq
  · exact (mem_slashed hp).imp_right Or.inl
  · exact Or.inr (Or.inr hq)

theorem nul_not_mem_child (h : IsName name) (hp : '\x00' ∉ p.text) (hname : '\x00' ∉ name) :
    '\x00' ∉ (p.child name).text := by
  intro hmem
  rcases mem_text_join h.isAbsolute_mk hmem with hmem | hmem | hmem
  · exact hp hmem
  · exact absurd hmem (by decide)
  · exact hname hmem

theorem subset_text_join (hq : q.isAbsolute = false) :
    p.text ⊆ (p.join q).text ∧ q.text ⊆ (p.join q).text := by
  have hslashed : p.text ⊆ p.slashed := by
    unfold slashed
    split
    · exact List.Subset.refl _
    · exact List.subset_append_left _ _
  rw [text_join hq]
  exact ⟨List.Subset.trans hslashed (List.subset_append_left _ _), List.subset_append_right _ _⟩

/-- The text of a path is its anchor and its steps. -/
theorem anchor_append_glue (p : Path) : p.anchor ++ Text.glue '/' p.steps = p.text := by
  rw [steps, glue_pieces]
  rcases p.anchor_cases with ⟨hanchor, rest, htext, -⟩ | ⟨hanchor, htext, -⟩ |
    ⟨hanchor, rest, htext, -⟩ | ⟨hanchor, -, -⟩
  · simp [hanchor, htext]
  · simp [hanchor, htext]
  · simp [hanchor, htext]
  · simp [hanchor]

/-- The parent of a path that ends in a name is shorter by the name at least. -/
theorem byteLength_parent?_child (h : IsName name) (hparent : (p.child name).parent? = some q) :
    byteLength q.text + byteLength name ≤ byteLength (p.child name).text := by
  obtain ⟨front, hsteps⟩ := steps_child p h
  have hdropped : dropIdleEnd (p.child name).steps = front ++ [name] := by
    rw [hsteps, dropIdleEnd_append_singleton h.not_idle]
  rcases parent?_cases hparent with ⟨hnil, -⟩ | ⟨other, step, hother, rfl⟩
  · rw [hdropped] at hnil
    simp at hnil
  · rw [hdropped] at hother
    obtain ⟨rfl, hstep⟩ := List.append_inj' hother rfl
    have hfront : byteLength (glue '/' (dropIdleEnd front)) ≤ byteLength (glue '/' front) :=
      byteLength_glue_le (dropIdleEnd_isInitial front)
    have hname := byteLength_glue_append_singleton '/' front name
    rw [← anchor_append_glue (p.child name), hsteps, byteLength_append, byteLength_append]
    omega

/-- The parent of a path has no other characters than the path, but for slashes. -/
theorem mem_text_parent? {c : Char} (hparent : p.parent? = some q) (h : c ∈ q.text) :
    c ∈ p.text ∨ c = '/' := by
  rcases parent?_cases hparent with ⟨-, -, rfl⟩ | ⟨front, step, hfront, rfl⟩
  · cases h
  · rcases List.mem_append.mp h with hanchor | hglue
    · rw [← anchor_append_glue p]
      exact Or.inl (List.mem_append_left _ hanchor)
    · rcases mem_glue hglue with hslash | ⟨piece, hpiece, hc⟩
      · exact Or.inr hslash
      · have hsteps : piece ∈ p.steps := by
          refine (dropIdleEnd_isInitial p.steps).subset ?_
          rw [hfront]
          exact List.mem_append_left _ ((dropIdleEnd_isInitial front).subset hpiece)
        exact Or.inl (List.drop_subset _ _ (mem_of_mem_pieces hsteps hc))

end Path

namespace Disk

/-- A path can be followed if it has a text, which is short enough and without NUL. -/
theorem textFault?_eq_none_iff {p : Path} :
    textFault? p = none ↔
      '\x00' ∉ p.text ∧ p.text ≠ [] ∧ Text.byteLength p.text ≤ maxPathLength := by
  unfold textFault? isPathTooLong
  by_cases hnul : '\x00' ∈ p.text
  · simp [hnul]
  · by_cases hnil : p.text = []
    · simp [hnil]
    · simp [hnul, hnil]

/-- A path that can be followed is not too long. -/
theorem isPathTooLong_of_textFault? {p : Path} (h : textFault? p = none) :
    isPathTooLong p = false :=
  decide_eq_false (Nat.not_lt.mpr (textFault?_eq_none_iff.mp h).2.2)

/-- An absolute path is what is in front of the path, if that is relative, and the path. -/
theorem slashed_absolute (d : Disk) (p : Path) :
    ∃ front : Text, (d.absolute p).slashed = front ++ p.slashed ∧
      (p.isAbsolute = false → 1 ≤ Text.byteLength front) := by
  cases hp : p.isAbsolute with
  | true =>
      refine ⟨[], ?_, by simp⟩
      rw [absolute, Path.join, if_pos hp, List.nil_append]
  | false =>
      refine ⟨_, Path.slashed_join hp, fun _ => ?_⟩
      have hlength := (Path.byteLength_slashed ⟨'/' :: Text.glue '/' d.working⟩).1
      have hslash := '/'.utf8Size_pos
      rw [Text.byteLength_cons] at hlength
      omega

/-- If a path below another can be followed, then so can the other one, if it has a text. -/
theorem textFault?_of_child {p : Path} {name : Text} (hname : Path.IsName name)
    (h : textFault? (p.child name) = none) : p.text = [] ∨ textFault? p = none := by
  by_cases hnil : p.text = []
  · exact Or.inl hnil
  · obtain ⟨hnul, -, hlength⟩ := textFault?_eq_none_iff.mp h
    have hshort := Path.le_byteLength_join (p := p) hname.isAbsolute_mk
    refine Or.inr (textFault?_eq_none_iff.mpr ⟨fun hmem => ?_, hnil, ?_⟩)
    · exact hnul ((Path.subset_text_join hname.isAbsolute_mk).1 hmem)
    · exact ((Nat.le_add_right _ _).trans hshort).trans hlength

end Disk
end IconAssets
