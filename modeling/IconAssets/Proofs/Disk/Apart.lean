import IconAssets.Proofs.Disk.Clear

/-!
# Disks that agree off some places

Two disks may differ in what is found at some places.  A path that avoids these places sees the same
on both, and what is done by it gives the same result on both, which then still agree elsewhere.
The same relation says where a change takes effect: a disk agrees with the changed one off the
places that the change is about.

* `AgreeOff`, `Avoids`, `ClearOff`: disks, and paths that see the same on them;
* `AgreeOff.resolve`, `AgreeOff.readFile`, `AgreeOff.leads`: what paths see;
* `agreeOff_makeFolders`, `agreeOff_writeFile`, `agreeOff_clear`: where a change takes effect;
* `AgreeOff.makeFolders`, `AgreeOff.writeFile`, `AgreeOff.removeFolder`, `AgreeOff.rename`: the same
  change of two disks.
-/

namespace IconAssets
namespace Disk

/-- Two disks agree off some places; both have the working folder of a third one. -/
structure AgreeOff (base : Disk) (off : Place → Prop) (d e : Disk) : Prop where
  left : d.working = base.working
  right : e.working = base.working
  found : ∀ q, ¬off q → d.found q = e.found q

/-- The way of a path avoids some places. -/
def Avoids (base : Disk) (off : Place → Prop) (p : Path) : Prop := ∀ r ∈ base.trail p, ¬off r

/-- The way of a path avoids some places, and none of them is at or below its end. -/
structure ClearOff (base : Disk) (off : Place → Prop) (p : Path) : Prop where
  avoids : base.Avoids off p
  below : ∀ r, ¬off (base.target p ++ r)

/-- Two results of a change are the same, off some places. -/
def MatchesOff (base : Disk) (off : Place → Prop) :
    Except Fault Disk → Except Fault Disk → Prop
  | .ok d, .ok e => AgreeOff base off d e
  | .error a, .error b => a = b
  | _, _ => False

section

variable {base d e f : Disk} {off more : Place → Prop} {p q : Path}

theorem matchesOff_cases {x y : Except Fault Disk} (h : MatchesOff base off x y) :
    (∃ fault, x = .error fault ∧ y = .error fault) ∨
      ∃ d e, x = .ok d ∧ y = .ok e ∧ AgreeOff base off d e := by
  cases x with
  | error a =>
      cases y with
      | error b =>
          exact Or.inl ⟨a, rfl, congrArg Except.error (Eq.symm h)⟩
      | ok e =>
          exact h.elim
  | ok d =>
      cases y with
      | error b =>
          exact h.elim
      | ok e =>
          exact Or.inr ⟨d, e, rfl, rfl, h⟩

/-- What is below the end of a clear path is clear. -/
theorem ClearOff.child (h : base.ClearOff off p) {name : Text} (hname : Path.IsName name) :
    base.ClearOff off (p.child name) := by
  constructor
  · intro r hr
    rcases (mem_trail_child_iff hname).mp hr with hr | rfl
    · exact h.avoids r hr
    · exact h.below [name]
  · intro r
    rw [target_child base p hname, List.append_assoc]
    exact h.below _

/-- A path that goes on behind a clear one without going up is clear. -/
theorem ClearOff.join (h : base.ClearOff off p) (hq : q.isAbsolute = false)
    (hup : ∀ piece ∈ q.moves, isUp piece = false) : base.ClearOff off (p.join q) := by
  have hbelow : ∀ r ∈ stops (base.target p) q.moves, ∃ s, r = base.target p ++ s := by
    intro r hr
    obtain ⟨s, hs⟩ := prefix_of_mem_stops hup hr
    exact ⟨s, hs.symm⟩
  constructor
  · intro r hr
    rcases (mem_trail_join_iff hq).mp hr with hr | hr
    · exact h.avoids r hr
    · obtain ⟨s, rfl⟩ := hbelow r hr
      exact h.below s
  · intro r
    obtain ⟨s, hs⟩ := hbelow _ (travel_mem_stops (base.target p) q.moves)
    rw [target_join base hq, hs, List.append_assoc]
    exact h.below _

/-- A path that leads out of a folder avoids what is at and below it, unless it passes it. -/
theorem avoids_of_not_mem_trail {place : Place} (h : place ∉ base.trail p)
    (hend : ¬place <+: base.target p) : base.Avoids (place <+: ·) p := fun _ hr hbelow =>
  h (mem_stops_of_leave hr hbelow hend)

theorem Avoids.of_working (h : base.Avoids off p) (hworking : d.working = base.working) :
    d.Avoids off p := by
  intro r hr
  rw [trail_congr hworking] at hr
  exact h r hr

theorem Avoids.of_moves (h : base.Avoids off p) (habsolute : q.isAbsolute = p.isAbsolute)
    (hmoves : q.moves = p.moves) : base.Avoids off q := by
  intro r hr
  have hstart : base.start q = base.start p := by rw [start, start, habsolute]
  rw [mem_trail_iff, hstart, hmoves, ← mem_trail_iff] at hr
  exact h r hr

theorem Avoids.of_absolute (h : base.Avoids off (base.absolute p)) : base.Avoids off p :=
  fun r hr => h r (trail_subset_absolute base p hr)

/-- The way to the working folder passes only what is above the start of the path. -/
theorem Avoids.absolute {place : Place} (h : base.Avoids (place <+: ·) p)
    (hworking : ∀ name ∈ base.working, Path.IsName name) :
    base.Avoids (place <+: ·) (base.absolute p) := by
  cases hp : p.isAbsolute with
  | true =>
      rwa [Disk.absolute, Path.join, if_pos hp]
  | false =>
      intro r hr hbelow
      rcases (mem_trail_absolute_iff hp).mp hr with hfront | hrest
      · have hup : ∀ piece ∈ Path.moves ⟨'/' :: Text.glue '/' base.working⟩,
            isUp piece = false := by
          intro piece hpiece
          rw [Path.moves, Text.pieces_sep_cons, Path.filter_moves_cons_idle Path.isIdle_nil,
            Path.filter_pieces_glue fun name hname => (hworking name hname).slash_not_mem] at hpiece
          exact (hworking piece (List.mem_of_mem_filter hpiece)).not_up
        have hstart := prefix_travel_of_mem_stops hup hfront
        rw [(moves_absolute hp).2.2] at hstart
        exact h _ (mem_stops_self _ _) (hbelow.trans hstart)
      · exact h r hrest hbelow

theorem Avoids.of_child {name : Text} (hname : Path.IsName name)
    (h : base.Avoids off (p.child name)) : base.Avoids off p := fun r hr =>
  h r ((mem_trail_child_iff hname).mpr (Or.inl hr))

theorem ClearOff.of_moves (h : base.ClearOff off p) (habsolute : q.isAbsolute = p.isAbsolute)
    (hmoves : q.moves = p.moves) : base.ClearOff off q := by
  refine ⟨h.avoids.of_moves habsolute hmoves, ?_⟩
  have htarget : base.target q = base.target p := by
    rw [target_eq_travel_moves, target_eq_travel_moves, hmoves, start, start, habsolute]
  rw [htarget]
  exact h.below

theorem ClearOff.of_absolute (h : base.ClearOff off (base.absolute p)) : base.ClearOff off p := by
  refine ⟨h.avoids.of_absolute, ?_⟩
  rw [← target_absolute]
  exact h.below

namespace AgreeOff

theorem refl (off : Place → Prop) (d : Disk) : AgreeOff d off d d := ⟨rfl, rfl, fun _ _ => rfl⟩

theorem symm (h : AgreeOff base off d e) : AgreeOff base off e d :=
  ⟨h.right, h.left, fun q hq => (h.found q hq).symm⟩

theorem trans {other : Disk} (h : AgreeOff base off d e) (h' : AgreeOff other off e f) :
    AgreeOff base off d f :=
  ⟨h.left, h'.right.trans (h'.left.symm.trans h.right), fun q hq =>
    (h.found q hq).trans (h'.found q hq)⟩

theorem mono (h : AgreeOff base off d e) (hmore : ∀ q, off q → more q) : AgreeOff base more d e :=
  ⟨h.left, h.right, fun q hq => h.found q fun hoff => hq (hmore q hoff)⟩

/-- Only what is found matters. -/
theorem of_found (h : AgreeOff base off d e) (hworking : f.working = e.working)
    (hfound : f.found = e.found) : AgreeOff base off d f :=
  ⟨h.left, hworking.trans h.right, by rw [hfound]; exact h.found⟩

theorem start (h : AgreeOff base off d e) (p : Path) : e.start p = d.start p :=
  (start_congr h.right p).trans (start_congr h.left p).symm

/-- The same is found along a path that avoids the places. -/
theorem found_trail (h : AgreeOff base off d e) (hp : base.Avoids off p) :
    ∀ r ∈ d.trail p, d.found r = e.found r := by
  intro r hr
  rw [trail_congr h.left] at hr
  exact h.found r (hp r hr)

theorem resolve (h : AgreeOff base off d e) (hp : base.Avoids off p) : d.resolve p = e.resolve p :=
  resolve_congr (h.start p) (h.found_trail hp)

theorem readFile (h : AgreeOff base off d e) (hp : base.Avoids off p) :
    d.readFile p = e.readFile p :=
  readFile_congr (h.start p) (h.found_trail hp)

theorem foundAt (h : AgreeOff base off d e) (hp : base.Avoids off p) : d.foundAt p = e.foundAt p :=
  foundAt_congr (h.start p) (h.found_trail hp)

theorem hasObject (h : AgreeOff base off d e) (hp : base.Avoids off p) :
    d.hasObject p = e.hasObject p := by
  rw [hasObject_eq_isSome, hasObject_eq_isSome, h.foundAt hp]

theorem isFolder (h : AgreeOff base off d e) (hp : base.Avoids off p) :
    d.isFolder p = e.isFolder p := by
  rw [Bool.eq_iff_iff, isFolder_iff, isFolder_iff, h.foundAt hp]

theorem locate (h : AgreeOff base off d e) (hp : base.Avoids off p) : d.locate p = e.locate p :=
  locate_congr (h.start p) (h.found_trail hp)

theorem leads (h : AgreeOff base off d e) (hp : base.Avoids off p) {folder : Place}
    (hleads : d.Leads p folder) : e.Leads p folder :=
  hleads.of_agree (h.start p) fun r hr _ => (h.found_trail hp r (mem_trail_iff.mpr hr)).symm

end AgreeOff

/-- The place of an object that a path names is at the end of its way. -/
theorem not_off_of_resolve (hd : d.working = base.working) (hp : base.Avoids off p) {r : Place}
    (hr : d.resolve p = .ok r) : ¬off r := by
  rw [eq_target_of_resolve hr, target_congr hd]
  exact hp _ (target_mem_trail base p)

theorem not_off_of_locate (hd : d.working = base.working) (hp : base.Avoids off p) {folder : Place}
    {name : Text} {slash : Bool} (hlocate : d.locate p = .ok ⟨folder, some name, slash⟩) :
    ¬off (folder ++ [name]) := by
  rw [← (locate_eq_ok hlocate).2, target_congr hd]
  exact hp _ (target_mem_trail base p)

/-- An object that is put into a folder, where no folder was, takes effect at its place only. -/
theorem agreeOff_put {folder : Place} {name : Text} (hfolder : d.found folder = some .folder)
    (hname : d.found (folder ++ [name]) ≠ some .folder) (x : Object) :
    AgreeOff d (· = folder ++ [name]) d (d.put (folder ++ [name]) x) := by
  refine ⟨rfl, rfl, fun q hq => ?_⟩
  rw [found_put_of_folder hfolder, if_neg hq]
  split
  · next hbelow =>
    by_contra hsome
    exact hname (found_above hbelow (Ne.symm hq) hsome)
  · rfl

/-- A folder is made at the end of its path, where nothing was. -/
theorem agreeOff_makeFolder (h : d.makeFolder p = .ok e) :
    AgreeOff d (· = d.target p) d e := by
  unfold makeFolder at h
  split at h
  · cases h
  · cases h
  · next folder name _ hlocate =>
    split at h
    · cases h
    · split at h
      · cases h
      · next hnone =>
        obtain ⟨hfolder, htarget⟩ := locate_eq_ok hlocate
        rw [← Except.ok.inj h, htarget]
        exact agreeOff_put hfolder (by rw [found_eq_none_iff.mpr hnone]; simp) _

/-- A file is written at the end of its path. -/
theorem agreeOff_writeFile {data : Bytes} (h : d.writeFile p data = .ok e) :
    AgreeOff d (· = d.target p) d e := by
  unfold writeFile at h
  split at h
  · cases h
  · cases h
  · cases h
  · next folder name hlocate =>
    obtain ⟨hfolder, htarget⟩ := locate_eq_ok hlocate
    rw [htarget]
    split at h
    · cases h
    · cases hx : d.lookup (folder ++ [name]) with
      | none =>
          rw [hx] at h
          rw [← Except.ok.inj h]
          exact agreeOff_put hfolder (by simp [found_eq_folder_iff, hx]) _
      | some x =>
          rw [hx] at h
          cases x with
          | folder =>
              cases h
          | file content runnable =>
              rw [← Except.ok.inj h]
              exact agreeOff_put hfolder (by simp [found_eq_folder_iff, hx]) _
          | device x =>
              have hput : ∀ y, AgreeOff d (· = folder ++ [name]) d (d.put (folder ++ [name]) y) :=
                agreeOff_put hfolder (by simp [found_eq_folder_iff, hx])
              cases x with
              | terminal =>
                  cases h
              | full =>
                  dsimp only at h
                  split at h
                  · rw [← Except.ok.inj h]
                    exact AgreeOff.refl _ d
                  · cases h
              | _ =>
                  rw [← Except.ok.inj h]
                  exact hput _

theorem agreeOff_clear (d : Disk) (p : Place) : AgreeOff d (p <+: ·) d (d.clear p) := by
  refine ⟨rfl, rfl, fun q hq => ?_⟩
  have hne : p ≠ [] := by
    rintro rfl
    exact hq List.nil_prefix
  rw [found_clear d hne, if_neg hq]

/-- A path and its parents stay on the trail of the path. -/
theorem trail_of_mem_chain {room : Nat} (hq : q ∈ chain room p) {r : Place}
    (hr : r ∈ base.trail q) : r ∈ base.trail p := by
  induction room generalizing p with
  | zero =>
      exact absurd hq List.not_mem_nil
  | succ room ih =>
      unfold chain at hq
      split at hq
      · exact absurd hq List.not_mem_nil
      · next parent hparent =>
        rcases List.mem_cons.mp hq with rfl | hq
        · exact hr
        · obtain ⟨habsolute, hmoves⟩ := Path.of_parent? hparent
          have hstart : base.start parent = base.start p := by
            rw [start, start, habsolute]
          have hparents := mem_trail_iff.mp (ih hq)
          rw [hstart, hmoves] at hparents
          obtain ⟨last, hlast⟩ := List.dropLast_prefix p.moves
          rw [mem_trail_iff, ← hlast, mem_stops_append_iff]
          exact Or.inl hparents

/-- Folders are made on the ways of their paths. -/
theorem agreeOff_makeFirst (d : Disk) (ps : List Path) :
    AgreeOff d (fun r => ∃ p ∈ ps, r ∈ d.trail p) d (d.makeFirst ps).1 := by
  refine makeFirst_of_makeFolder
    (R := fun e f => e.working = d.working →
      AgreeOff d (fun r => ∃ p ∈ ps, r ∈ d.trail p) e f) ?_ ?_ ?_ d rfl
  · exact fun e hworking => ⟨hworking, hworking, fun _ _ => rfl⟩
  · exact fun e f g hef hfg hworking => (hef hworking).trans (hfg (hef hworking).right)
  · intro p hp e f hmake hworking
    obtain ⟨-, hright, hfound⟩ := agreeOff_makeFolder hmake
    refine ⟨hworking, hright.trans hworking, fun r hr => hfound r ?_⟩
    rintro rfl
    rw [target_congr hworking] at hr
    exact hr ⟨p, hp, target_mem_trail d p⟩

/-- Missing folders are made on the way of the path, at places where nothing was. -/
theorem agreeOff_makeFolders (d : Disk) (p : Path) :
    AgreeOff d (fun r => r ∈ d.trail p ∧ d.found r = none) d (d.makeFolders p).1 := by
  refine ⟨rfl, (grows_makeFolders d p).working, fun r hr => ?_⟩
  by_cases hnone : d.found r = none
  · refine (agreeOff_makeFirst d _).found r ?_
    rintro ⟨q, hq, hmem⟩
    exact hr ⟨trail_of_mem_chain hq hmem, hnone⟩
  · exact ((grows_makeFolders d p).found r hnone).symm

/-- Each place is found as before, or a folder has been made there, on the way of the path. -/
theorem found_makeFolders (d : Disk) (p : Path) (q : Place) :
    (d.makeFolders p).1.found q = d.found q ∨
      q ∈ d.trail p ∧ d.found q = none ∧ (d.makeFolders p).1.found q = some .folder := by
  by_cases hq : q ∈ d.trail p ∧ d.found q = none
  · rcases found_makeFirst d (chain (p.text.length + 1) p) q with hsame | ⟨-, hfolder⟩
    · exact Or.inl hsame
    · exact Or.inr ⟨hq.1, hq.2, hfolder⟩
  · exact Or.inl ((agreeOff_makeFolders d p).found q hq).symm

namespace AgreeOff

theorem put (h : AgreeOff base off d e) {folder : Place} {name : Text} {x y : Object}
    (hleft : d.found folder = some .folder) (hright : e.found folder = some .folder)
    (hxy : x.settled = y.settled) :
    AgreeOff base off (d.put (folder ++ [name]) x) (e.put (folder ++ [name]) y) := by
  refine ⟨h.left, h.right, fun q hq => ?_⟩
  rw [found_put_of_folder hleft, found_put_of_folder hright, h.found q hq, hxy]

/-- What is located is found in the same way, in the same folder. -/
theorem found_of_locate (h : AgreeOff base off d e) (hp : base.Avoids off p) {folder : Place}
    {name : Text} {slash : Bool} (hlocate : d.locate p = .ok ⟨folder, some name, slash⟩) :
    d.found folder = some .folder ∧ e.found folder = some .folder ∧
      d.found (folder ++ [name]) = e.found (folder ++ [name]) := by
  have hlocate' := hlocate
  rw [h.locate hp] at hlocate'
  exact ⟨(locate_eq_ok hlocate).1, (locate_eq_ok hlocate').1,
    h.found _ (not_off_of_locate h.left hp hlocate)⟩

theorem makeFolder (h : AgreeOff base off d e) (hp : base.Avoids off p) :
    MatchesOff base off (d.makeFolder p) (e.makeFolder p) := by
  unfold Disk.makeFolder
  rw [← h.locate hp]
  cases hlocate : d.locate p with
  | error fault =>
      exact rfl
  | ok spot =>
      obtain ⟨folder, - | name, slash⟩ := spot
      · exact rfl
      · obtain ⟨hleft, hright, hsame⟩ := h.found_of_locate hp hlocate
        dsimp only
        cases isTooLong name with
        | true =>
            exact rfl
        | false =>
            rcases lookup_cases hsame with ⟨hd, he⟩ | ⟨hd, he⟩ | ⟨_, _, hd, he⟩ |
              ⟨_, _, hd, he, -⟩ <;> rw [hd, he]
            · exact h.put hleft hright rfl
            · exact rfl
            · exact rfl
            · exact rfl

theorem makeFirst {ps : List Path} (h : AgreeOff base off d e)
    (hps : ∀ p ∈ ps, base.Avoids off p) :
    AgreeOff base off (d.makeFirst ps).1 (e.makeFirst ps).1 ∧
      (d.makeFirst ps).2 = (e.makeFirst ps).2 := by
  induction ps generalizing d e with
  | nil =>
      exact ⟨h, rfl⟩
  | cons p parents ih =>
      have hp := hps p List.mem_cons_self
      obtain ⟨hagree, hfault⟩ := ih h fun q hq => hps q (List.mem_cons_of_mem _ hq)
      unfold Disk.makeFirst
      rcases matchesOff_cases (h.makeFolder hp) with ⟨fault, hd, he⟩ | ⟨d₁, e₁, hd, he, hmade⟩
      · rw [hd, he]
        cases fault with
        | missing =>
            dsimp only
            cases hd₁ : d.makeFirst parents with
            | mk d₁ problem =>
                cases he₁ : e.makeFirst parents with
                | mk e₁ problem' =>
                    rw [hd₁, he₁] at hagree hfault
                    obtain rfl : problem = problem' := hfault
                    cases problem with
                    | some problem =>
                        exact ⟨hagree, rfl⟩
                    | none =>
                        dsimp only at hagree ⊢
                        rcases matchesOff_cases (hagree.makeFolder hp) with
                          ⟨fault, hd₂, he₂⟩ | ⟨d₂, e₂, hd₂, he₂, hmade⟩
                        · rw [hd₂, he₂]
                          exact ⟨hagree, by rw [hagree.isFolder hp]⟩
                        · rw [hd₂, he₂]
                          exact ⟨hmade, rfl⟩
        | _ =>
            exact ⟨h, by rw [h.isFolder hp]⟩
      · rw [hd, he]
        exact ⟨hmade, rfl⟩

theorem makeFolders (h : AgreeOff base off d e) (hp : base.Avoids off p) :
    AgreeOff base off (d.makeFolders p).1 (e.makeFolders p).1 ∧
      (d.makeFolders p).2 = (e.makeFolders p).2 :=
  h.makeFirst fun _ hq r hr => hp r (trail_of_mem_chain hq hr)

theorem writeFile (h : AgreeOff base off d e) (hp : base.Avoids off p) (data : Bytes) :
    MatchesOff base off (d.writeFile p data) (e.writeFile p data) := by
  unfold Disk.writeFile
  rw [← h.locate hp]
  cases hlocate : d.locate p with
  | error fault =>
      exact rfl
  | ok spot =>
      obtain ⟨folder, - | name, slash⟩ := spot
      · exact rfl
      · cases slash with
        | true =>
            exact rfl
        | false =>
            obtain ⟨hleft, hright, hsame⟩ := h.found_of_locate hp hlocate
            dsimp only
            cases isTooLong name with
            | true =>
                exact rfl
            | false =>
                rcases lookup_cases hsame with
                  ⟨hd, he⟩ | ⟨hd, he⟩ | ⟨_, _, hd, he⟩ | ⟨x, y, hd, he, hxy⟩ <;> rw [hd, he]
                · exact h.put hleft hright rfl
                · exact rfl
                · exact h.put hleft hright rfl
                · -- The two devices are the same, up to what has been sent to a stream.
                  cases x <;> cases y <;> cases hxy
                  · exact h.put hleft hright rfl
                  · exact h.put hleft hright rfl
                  · by_cases hdata : data = []
                    · simpa [hdata, MatchesOff] using h
                    · simp [hdata, MatchesOff]
                  · exact h.put hleft hright rfl
                  · exact rfl
                  · exact h.put hleft hright rfl

theorem removeFolder (h : AgreeOff base off d e) (hp : base.Avoids off p)
    (hroot : base.target p ≠ []) :
    MatchesOff base off (d.removeFolder p) (e.removeFolder p) := by
  unfold Disk.removeFolder
  rw [← h.resolve hp]
  cases hresolve : d.resolve p with
  | error fault =>
      exact rfl
  | ok q =>
      have hne : q ≠ [] := by
        rw [eq_target_of_resolve hresolve, target_congr h.left]
        exact hroot
      have hsame := h.found q (not_off_of_resolve h.left hp hresolve)
      have hcleared : AgreeOff base off (d.clear q) (e.clear q) := by
        refine ⟨h.left, h.right, fun r hr => ?_⟩
        rw [found_clear d hne, found_clear e hne, h.found r hr]
      dsimp only
      rcases lookup_cases hsame with ⟨hd, he⟩ | ⟨hd, he⟩ | ⟨_, _, hd, he⟩ | ⟨_, _, hd, he, -⟩ <;>
        rw [hd, he]
      · exact rfl
      · exact hcleared
      · exact rfl
      · exact rfl

/-- An object that a clear path names is moved in the same way, as long as it is not moved into
itself. -/
theorem rename (h : AgreeOff base off d e) (hp : base.ClearOff off p) (hq : base.Avoids off q)
    (hpq : ¬base.target p <+: base.target q) :
    MatchesOff base off (d.rename p q) (e.rename p q) := by
  unfold Disk.rename
  rw [← h.resolve hp.avoids, ← h.locate hq]
  cases hresolve : d.resolve p with
  | error fault =>
      exact rfl
  | ok source =>
      have hresolve' := hresolve
      rw [h.resolve hp.avoids] at hresolve'
      have htarget : source = base.target p := by
        rw [eq_target_of_resolve hresolve, target_congr h.left]
      dsimp only
      cases hlocate : d.locate q with
      | error fault =>
          exact rfl
      | ok spot =>
          obtain ⟨folder, - | name, slash⟩ := spot
          · exact rfl
          · obtain ⟨hleft, hright, hsame⟩ := h.found_of_locate hq hlocate
            have hspot : folder ++ [name] = base.target q := by
              rw [← (locate_eq_ok hlocate).2, target_congr h.left]
            dsimp only
            cases isTooLong name with
            | true =>
                exact rfl
            | false =>
                rcases lookup_cases hsame with
                  ⟨hd, he⟩ | ⟨hd, he⟩ | ⟨_, _, hd, he⟩ | ⟨_, _, hd, he, -⟩ <;> rw [hd, he]
                · have hinto : ¬source <+: folder ++ [name] := by
                    rwa [htarget, hspot]
                  have hthere := found_of_mem_trail hresolve (mem_trail_of_resolve hresolve)
                  have hthere' := found_of_mem_trail hresolve' (mem_trail_of_resolve hresolve')
                  refine ⟨h.left, h.right, fun r hr => ?_⟩
                  rw [found_move hthere hleft hinto (found_eq_none_iff.mpr hd),
                    found_move hthere' hright hinto (found_eq_none_iff.mpr he), htarget,
                    h.found _ (hp.below _), h.found r hr]
                · exact rfl
                · exact rfl
                · exact rfl

end AgreeOff
end

end Disk
end IconAssets
