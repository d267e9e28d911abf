import IconAssets.Disk.Walk
import IconAssets.Proofs.Text.Pieces
import Mathlib.Data.List.DropRight

/-!
# The moves of a path

Where a path leads depends on whether it starts at the root folder and on its pieces that are not
idle, its moves.  Adding a name adds one move, and the parent of a path lacks the last one, however
the text is written.

* `moves_child`, `isAbsolute_child`, `fileName?_child`: a name below a path;
* `isName_of_fileName?`: the last component of a path;
* `text_join`, `moves_join`: a path below another;
* `of_parent?`: the parent of a path.
-/

namespace IconAssets
namespace Path

/-- What an object in a folder may be called. -/
structure IsName (name : Text) : Prop where
  slash_not_mem : '/' ∉ name
  not_idle : isIdle name = false
  not_up : Disk.isUp name = false

/-- The pieces of a path that are not idle. -/
def moves (p : Path) : List Text := (Text.pieces '/' p.text).filter fun piece => !isIdle piece

@[simp] theorem isIdle_nil : isIdle [] = true := rfl

@[simp] theorem isIdle_dot : isIdle ['.'] = true := rfl

/-- Pieces behind an empty one. -/
theorem filter_moves_cons_idle {piece : Text} (h : isIdle piece = true) (pieces : List Text) :
    ((piece :: pieces).filter fun piece => !isIdle piece) =
      pieces.filter fun piece => !isIdle piece := by
  simp [h]

namespace IsName

theorem ne_nil {name : Text} (h : IsName name) : name ≠ [] := by
  rintro rfl
  exact absurd h.not_idle (by decide)

theorem head?_ne {name : Text} (h : IsName name) : name.head? ≠ some '/' := fun hhead =>
  h.slash_not_mem (List.mem_of_head? hhead)

theorem isAbsolute_mk {name : Text} (h : IsName name) : isAbsolute ⟨name⟩ = false := by
  simpa [isAbsolute] using h.head?_ne

theorem pieces_eq {name : Text} (h : IsName name) : Text.pieces '/' name = [name] :=
  Text.pieces_eq_singleton h.slash_not_mem

end IsName

/-- The text of a path with the slash that parts it from what is put below it. -/
def slashed (p : Path) : Text :=
  if p.text = [] ∨ p.text.getLast? = some '/' then p.text else p.text ++ ['/']

theorem text_join {p q : Path} (hq : q.isAbsolute = false) :
    (p.join q).text = p.slashed ++ q.text := by
  unfold join slashed
  rw [if_neg (by simp [hq])]
  by_cases hnil : p.text = []
  · simp [hnil]
  · by_cases hslash : p.text.getLast? = some '/' <;> simp [hnil, hslash]

theorem text_child (p : Path) {name : Text} (h : IsName name) :
    (p.child name).text = p.slashed ++ name :=
  text_join h.isAbsolute_mk

theorem slashed_of_ends {p : Path} (h : p.text = [] ∨ p.text.getLast? = some '/') :
    p.slashed = p.text := if_pos h

theorem slashed_of_open {p : Path} (h : ¬(p.text = [] ∨ p.text.getLast? = some '/')) :
    p.slashed = p.text ++ ['/'] := if_neg h

theorem slashed_join {p q : Path} (hq : q.isAbsolute = false) :
    (p.join q).slashed = p.slashed ++ q.slashed := by
  by_cases hnil : q.text = []
  · have hends : p.slashed = [] ∨ p.slashed.getLast? = some '/' := by
      by_cases hp : p.text = [] ∨ p.text.getLast? = some '/'
      · rwa [slashed_of_ends hp]
      · simp [slashed_of_open hp]
    have htext : (p.join q).text = p.slashed := by rw [text_join hq, hnil, List.append_nil]
    rw [← htext] at hends
    rw [slashed_of_ends hends, htext, slashed_of_ends (Or.inl hnil), hnil, List.append_nil]
  · have hsame : (p.join q).text = [] ∨ (p.join q).text.getLast? = some '/' ↔
        q.text = [] ∨ q.text.getLast? = some '/' := by
      rw [text_join hq, List.getLast?_append_of_ne_nil _ hnil]
      simp [hnil]
    by_cases hends : q.text = [] ∨ q.text.getLast? = some '/'
    · rw [slashed_of_ends (hsame.mpr hends), slashed_of_ends hends, text_join hq]
    · rw [slashed_of_open (mt hsame.mp hends), slashed_of_open hends, text_join hq,
        List.append_assoc]

/-- A name is parted by a slash from what is put below it. -/
theorem slashed_child (p : Path) {name : Text} (h : IsName name) :
    (p.child name).slashed = p.slashed ++ (name ++ ['/']) := by
  have hopen : ¬(name = [] ∨ name.getLast? = some '/') := by
    rintro (hnil | hslash)
    · exact h.ne_nil hnil
    · exact h.slash_not_mem (List.mem_of_getLast? hslash)
  rw [child, slashed_join h.isAbsolute_mk, slashed_of_open (p := ⟨name⟩) hopen]

/-- A path behind another starts where that starts. -/
theorem isAbsolute_join {p q : Path} (hq : q.isAbsolute = false) :
    (p.join q).isAbsolute = p.isAbsolute := by
  unfold join
  rw [if_neg (by simp [hq])]
  split
  · next hnil =>
    rw [hq, isAbsolute, hnil]
    rfl
  · next hne =>
    obtain ⟨c, cs, hcs⟩ := List.exists_cons_of_ne_nil hne
    split <;> simp [isAbsolute, hcs]

/-- The pieces of a path behind another are those of the two, but for an idle one in between. -/
theorem pieces_join {p q : Path} (hq : q.isAbsolute = false) :
    ∃ front, (Text.pieces '/' p.text = front ∨ Text.pieces '/' p.text = front ++ [[]]) ∧
      Text.pieces '/' (p.join q).text = front ++ Text.pieces '/' q.text := by
  unfold join
  rw [if_neg (by simp [hq])]
  split
  · next hnil =>
    exact ⟨[], Or.inr (by simp [hnil]), by simp⟩
  · split
    · next hslash =>
      obtain ⟨front, hfront⟩ := List.getLast?_eq_some_iff.mp hslash
      refine ⟨Text.pieces '/' front, Or.inr ?_, ?_⟩
      · rw [hfront, Text.pieces_append_singleton]
      · rw [hfront, List.append_assoc]
        exact Text.pieces_append_cons '/' front q.text
    · exact ⟨Text.pieces '/' p.text, Or.inl rfl, Text.pieces_append_cons '/' p.text q.text⟩

theorem moves_join {p q : Path} (hq : q.isAbsolute = false) :
    (p.join q).moves = p.moves ++ q.moves := by
  obtain ⟨front, hp, hpq⟩ := pieces_join (p := p) hq
  unfold moves
  rw [hpq, List.filter_append]
  rcases hp with hp | hp
  · rw [hp]
  · rw [hp, List.filter_append]
    simp

theorem isAbsolute_child (p : Path) {name : Text} (h : IsName name) :
    (p.child name).isAbsolute = p.isAbsolute :=
  isAbsolute_join h.isAbsolute_mk

theorem moves_name {name : Text} (h : IsName name) : moves ⟨name⟩ = [name] := by
  simp [moves, h.pieces_eq, h.not_idle]

/-- A name below a path is one more move. -/
theorem moves_child (p : Path) {name : Text} (h : IsName name) :
    (p.child name).moves = p.moves ++ [name] := by
  rw [child, moves_join h.isAbsolute_mk, moves_name h]

theorem pieces_child (p : Path) {name : Text} (h : IsName name) :
    ∃ front, (Text.pieces '/' p.text = front ∨ Text.pieces '/' p.text = front ++ [[]]) ∧
      Text.pieces '/' (p.child name).text = front ++ [name] := by
  have hpieces := pieces_join (p := p) h.isAbsolute_mk
  rwa [h.pieces_eq] at hpieces

/-- A name below a path adds no other piece than the name. -/
theorem mem_pieces_child {p : Path} {name t : Text} (h : IsName name)
    (ht : t ∈ Text.pieces '/' (p.child name).text) : t ∈ Text.pieces '/' p.text ∨ t = name := by
  obtain ⟨front, hfront, hpieces⟩ := pieces_child p h
  rw [hpieces, List.mem_append, List.mem_singleton] at ht
  rcases ht with ht | ht
  · rcases hfront with hfront | hfront
    · exact Or.inl (hfront ▸ ht)
    · exact Or.inl (hfront ▸ List.mem_append_left _ ht)
  · exact Or.inr ht

/-- How the anchor and the steps of a path make up its text. -/
theorem anchor_cases (p : Path) :
    (p.anchor = ['/'] ∧ ∃ rest, p.text = '/' :: rest ∧ p.steps = Text.pieces '/' rest) ∨
      (p.anchor = ['.'] ∧ p.text = ['.'] ∧ p.steps = [[]]) ∨
      (p.anchor = ['.'] ∧
        ∃ rest, p.text = '.' :: '/' :: rest ∧ p.steps = [] :: Text.pieces '/' rest) ∨
      (p.anchor = [] ∧ p.text.head? ≠ some '/' ∧ p.steps = Text.pieces '/' p.text) := by
  obtain ⟨text⟩ := p
  unfold steps anchor
  dsimp only
  split
  · next rest =>
    exact Or.inl ⟨rfl, rest, rfl, rfl⟩
  · exact Or.inr (Or.inl ⟨rfl, rfl, rfl⟩)
  · next rest =>
    exact Or.inr (Or.inr (Or.inl ⟨rfl, rest, rfl, by simp⟩))
  · next hslash _ _ =>
    refine Or.inr (Or.inr (Or.inr ⟨rfl, ?_, rfl⟩))
    intro hhead
    cases text with
    | nil =>
        cases hhead
    | cons c cs =>
        exact hslash cs (by simpa using hhead)

/-- The moves of a path are its steps that are not idle. -/
theorem moves_eq_filter_steps (p : Path) : p.moves = p.steps.filter fun step => !isIdle step := by
  unfold moves
  rcases p.anchor_cases with ⟨-, rest, htext, hsteps⟩ | ⟨-, htext, hsteps⟩ |
    ⟨-, rest, htext, hsteps⟩ | ⟨-, -, hsteps⟩
  · rw [htext, hsteps, Text.pieces_sep_cons, filter_moves_cons_idle isIdle_nil]
  · rw [htext, hsteps]
    decide
  · have hdot : Text.pieces '/' ('.' :: '/' :: rest) = ['.'] :: Text.pieces '/' rest :=
      Text.pieces_append_cons '/' ['.'] rest
    rw [htext, hsteps, hdot, filter_moves_cons_idle isIdle_dot, filter_moves_cons_idle isIdle_nil]
  · rw [hsteps]

theorem slash_not_mem_step {p : Path} {step : Text} (h : step ∈ p.steps) : '/' ∉ step :=
  Text.not_mem_of_mem_pieces h

/-- The idle steps at the end are dropped from the right. -/
theorem dropIdleEnd_eq (steps : List Text) : dropIdleEnd steps = steps.rdropWhile isIdle := rfl

/-- Steps that end in a name have no idle ones at the end. -/
theorem dropIdleEnd_append_singleton {step : Text} (h : isIdle step = false) (steps : List Text) :
    dropIdleEnd (steps ++ [step]) = steps ++ [step] :=
  List.rdropWhile_concat_neg isIdle steps step (by simp [h])

theorem dropIdleEnd_isInitial (steps : List Text) : dropIdleEnd steps <+: steps :=
  List.rdropWhile_prefix isIdle steps

/-- What is left without the idle steps at the end does not end in an idle one. -/
theorem isIdle_of_dropIdleEnd {steps front : List Text} {step : Text}
    (h : dropIdleEnd steps = front ++ [step]) : isIdle step = false := by
  have hlast := List.rdropWhile_last_not isIdle steps (by
    rw [← dropIdleEnd_eq, h]
    simp)
  simpa [← dropIdleEnd_eq, h] using hlast

theorem filter_dropIdleEnd (steps : List Text) :
    ((dropIdleEnd steps).filter fun step => !isIdle step) =
      steps.filter fun step => !isIdle step := by
  induction steps using List.reverseRecOn with
  | nil =>
      rfl
  | append_singleton steps step ih =>
      cases hstep : isIdle step with
      | true =>
          rw [dropIdleEnd_eq, List.rdropWhile_concat_pos isIdle steps step hstep, ← dropIdleEnd_eq,
            ih, List.filter_append]
          simp [hstep]
      | false =>
          rw [dropIdleEnd_append_singleton hstep]

/-- Steps behind each other are read back as far as they count. -/
theorem filter_pieces_glue {steps : List Text} (h : ∀ step ∈ steps, '/' ∉ step) :
    ((Text.pieces '/' (Text.glue '/' steps)).filter fun step => !isIdle step) =
      steps.filter fun step => !isIdle step := by
  cases steps with
  | nil =>
      rfl
  | cons step steps =>
      rw [Text.pieces_glue (by simp) h]

/-- A beginning of the pieces of a text that does not start with a slash does not start with one
either: its first piece would be empty, and then the text would be empty or start with a slash. -/
theorem head?_glue_ne_of_isInitial {t : Text} {front : List Text} (h : front <+: Text.pieces '/' t)
    (ht : t.head? ≠ some '/') : (Text.glue '/' front).head? ≠ some '/' := by
  intro hglue
  cases front with
  | nil =>
      cases hglue
  | cons step steps =>
      have hslash : '/' ∉ step := Text.not_mem_of_mem_pieces (h.subset List.mem_cons_self)
      obtain ⟨more, hmore⟩ := h
      have hstep : step = [] := by
        cases step with
        | nil =>
            rfl
        | cons c cs =>
            have hc : c = '/' := by
              cases steps <;> simpa using hglue
            exact absurd hslash (by simp [hc])
      subst hstep
      rw [← Text.glue_pieces '/' t, ← hmore] at ht
      cases steps with
      | nil =>
          cases hglue
      | cons next rest =>
          exact ht rfl

/-- A beginning of the steps of a path, behind its anchor, starts where the path starts and has
those of its moves. -/
theorem moves_anchor_glue {p : Path} {front : List Text} (h : front <+: p.steps) :
    isAbsolute ⟨p.anchor ++ Text.glue '/' front⟩ = p.isAbsolute ∧
      moves ⟨p.anchor ++ Text.glue '/' front⟩ = front.filter fun step => !isIdle step := by
  have hslash : ∀ step ∈ front, '/' ∉ step := fun step hstep =>
    slash_not_mem_step (h.subset hstep)
  unfold isAbsolute moves
  rcases p.anchor_cases with ⟨hanchor, rest, htext, -⟩ | ⟨hanchor, htext, hsteps⟩ |
    ⟨hanchor, rest, htext, hsteps⟩ | ⟨hanchor, hhead, hsteps⟩
  · refine ⟨by simp [hanchor, htext], ?_⟩
    rw [hanchor, List.singleton_append, Text.pieces_sep_cons, filter_moves_cons_idle isIdle_nil,
      filter_pieces_glue hslash]
  · rw [hsteps] at h
    rcases List.prefix_cons_iff.mp h with rfl | ⟨more, rfl, hmore⟩
    · exact ⟨by simp [hanchor, htext], by rw [hanchor]; decide⟩
    · rw [List.prefix_nil.mp hmore]
      exact ⟨by simp [hanchor, htext], by rw [hanchor]; decide⟩
  · rw [hsteps] at h
    rcases List.prefix_cons_iff.mp h with rfl | ⟨more, rfl, -⟩
    · exact ⟨by simp [hanchor, htext], by rw [hanchor]; decide⟩
    · refine ⟨by simp [hanchor, htext], ?_⟩
      rw [hanchor, filter_moves_cons_idle isIdle_nil]
      cases more with
      | nil =>
          decide
      | cons step steps =>
          have hdot : Text.pieces '/' (['.'] ++ Text.glue '/' ([] :: step :: steps)) =
              ['.'] :: Text.pieces '/' (Text.glue '/' (step :: steps)) :=
            Text.pieces_append_cons '/' ['.'] _
          rw [hdot, filter_moves_cons_idle isIdle_dot,
            filter_pieces_glue fun s hs => hslash s (List.mem_cons_of_mem _ hs)]
  · refine ⟨?_, by rw [hanchor, List.nil_append, filter_pieces_glue hslash]⟩
    rw [hanchor, List.nil_append, decide_eq_false hhead, decide_eq_false_iff_not]
    exact head?_glue_ne_of_isInitial (hsteps ▸ h) hhead

/-- What the parent of a path is made of. -/
theorem parent?_cases {p q : Path} (h : p.parent? = some q) :
    (dropIdleEnd p.steps = [] ∧ p.anchor = ['.'] ∧ q = empty) ∨
      ∃ front step, dropIdleEnd p.steps = front ++ [step] ∧
        q = ⟨p.anchor ++ Text.glue '/' (dropIdleEnd front)⟩ := by
  unfold parent? at h
  split at h
  · next hnil =>
    split at h
    · next hanchor =>
      exact Or.inl ⟨hnil, hanchor, (Option.some_inj.mp h).symm⟩
    · cases h
  · next step steps hcons =>
    refine Or.inr ⟨(step :: steps).dropLast, (step :: steps).getLast (by simp), ?_, ?_⟩
    · rw [hcons, List.dropLast_append_getLast]
    · exact (Option.some_inj.mp h).symm

/-- The parent of a path starts where the path starts and lacks its last move. -/
theorem of_parent? {p q : Path} (h : p.parent? = some q) :
    q.isAbsolute = p.isAbsolute ∧ q.moves = p.moves.dropLast := by
  rw [moves_eq_filter_steps p, ← filter_dropIdleEnd p.steps]
  rcases parent?_cases h with ⟨hnil, hanchor, rfl⟩ | ⟨front, step, hsteps, rfl⟩
  · refine ⟨?_, by rw [hnil]; rfl⟩
    rcases p.anchor_cases with ⟨hslash, -⟩ | ⟨-, htext, -⟩ | ⟨-, rest, htext, -⟩ | ⟨hempty, -⟩
    · rw [hanchor] at hslash
      cases hslash
    · rw [isAbsolute, isAbsolute, htext]
      rfl
    · rw [isAbsolute, isAbsolute, htext]
      rfl
    · rw [hanchor] at hempty
      cases hempty
  · have hfront : dropIdleEnd front <+: p.steps := by
      refine (dropIdleEnd_isInitial front).trans ((List.prefix_append front [step]).trans ?_)
      rw [← hsteps]
      exact dropIdleEnd_isInitial p.steps
    obtain ⟨habsolute, hmoves⟩ := moves_anchor_glue hfront
    refine ⟨habsolute, ?_⟩
    rw [hmoves, filter_dropIdleEnd, hsteps, List.filter_append]
    simp [isIdle_of_dropIdleEnd hsteps]

theorem steps_child (p : Path) {name : Text} (h : IsName name) :
    ∃ front, (p.child name).steps = front ++ [name] := by
  obtain ⟨front, -, hpieces⟩ := pieces_child p h
  have hlast : (Text.pieces '/' (p.child name).text).getLast? = some name := by simp [hpieces]
  suffices (p.child name).steps.getLast? = some name from List.getLast?_eq_some_iff.mp this
  rcases (p.child name).anchor_cases with ⟨-, rest, htext, hsteps⟩ | ⟨-, htext, hsteps⟩ |
    ⟨-, rest, htext, hsteps⟩ | ⟨-, -, hsteps⟩
  · obtain ⟨step, steps, hrest⟩ := List.exists_cons_of_ne_nil (Text.pieces_ne_nil '/' rest)
    rw [htext, Text.pieces_sep_cons, hrest, List.getLast?_cons_cons] at hlast
    rw [hsteps, hrest]
    exact hlast
  · have hdot : name = ['.'] := by
      rw [htext] at hlast
      exact (Option.some_inj.mp hlast).symm
    exact absurd h.not_idle (by simp [hdot])
  · obtain ⟨step, steps, hrest⟩ := List.exists_cons_of_ne_nil (Text.pieces_ne_nil '/' rest)
    have hdot : Text.pieces '/' ('.' :: '/' :: rest) = ['.'] :: Text.pieces '/' rest :=
      Text.pieces_append_cons '/' ['.'] rest
    rw [htext, hdot, hrest, List.getLast?_cons_cons] at hlast
    rw [hsteps, hrest, List.getLast?_cons_cons]
    exact hlast
  · rw [hsteps]
    exact hlast

theorem fileName?_child (p : Path) {name : Text} (h : IsName name) :
    (p.child name).fileName? = some name := by
  obtain ⟨front, hsteps⟩ := steps_child p h
  have hup : name ≠ ['.', '.'] := by simpa [Disk.isUp] using h.not_up
  rw [fileName?, hsteps, dropIdleEnd_append_singleton h.not_idle, List.getLast?_concat]
  simp [hup]

/-- The last component of a path is a name. -/
theorem isName_of_fileName? {p : Path} {name : Text} (h : p.fileName? = some name) :
    IsName name := by
  unfold fileName? at h
  split at h
  · cases h
  · next step hlast =>
    split at h
    · cases h
    · next hup =>
      cases h
      obtain ⟨front, hfront⟩ := List.getLast?_eq_some_iff.mp hlast
      have hmem : name ∈ p.steps := (dropIdleEnd_isInitial p.steps).subset (by simp [hfront])
      exact ⟨slash_not_mem_step hmem, isIdle_of_dropIdleEnd hfront, by simpa [Disk.isUp] using hup⟩

/-- A name below a path has a parent, which starts where the path starts and has its moves. -/
theorem parent?_child (p : Path) {name : Text} (h : IsName name) :
    ∃ q, (p.child name).parent? = some q ∧ q.isAbsolute = p.isAbsolute ∧ q.moves = p.moves := by
  obtain ⟨front, hsteps⟩ := steps_child p h
  have hparent : ∃ q, (p.child name).parent? = some q := by
    unfold parent?
    rw [hsteps, dropIdleEnd_append_singleton h.not_idle]
    cases front <;> exact ⟨_, rfl⟩
  obtain ⟨q, hq⟩ := hparent
  obtain ⟨habsolute, hmoves⟩ := of_parent? hq
  refine ⟨q, hq, habsolute.trans (isAbsolute_child p h), ?_⟩
  rw [hmoves, moves_child p h, List.dropLast_concat]

end Path
end IconAssets
