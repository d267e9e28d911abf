import IconAssets.Proofs.Disk.Agreement
import IconAssets.Proofs.Run

/-!
# Runs that ignore some places

A run ignores some places if it ends in the same way on two disks that agree off these places, with
the same result or failure, and leaves two disks that still do.  Runs that are put together from
such steps ignore the places too.

* `IgnoresOff.bind`, `IgnoresOff.onFailure`: runs that are put together;
* `ignoresOff_disk_bind`: a run that goes on with what it has seen of the disk;
* `ignoresOff_change`, `ignoresOff_read`, `ignoresOff_makeFolders`: single steps;
* `ignores_iff`: the case of a single place.
-/

namespace IconAssets

theorem World.agreeOff_withDisk {base d e : Disk} {off : Place → Prop}
    (h : Disk.AgreeOff base off d e) (w v : World) :
    Disk.AgreeOff base off (w.withDisk d).disk (v.withDisk e).disk :=
  ⟨(working_withDisk w d).trans h.left, (working_withDisk v e).trans h.right, fun q hq => by
    rw [found_withDisk, found_withDisk, h.found q hq]⟩

namespace Run

variable {α β : Type} {base : Disk} {off : Place → Prop} {place : Place}

/-- Two runs end in the same way, off some places. -/
def SameOff (base : Disk) (off : Place → Prop) :
    EStateM.Result Failure World α → EStateM.Result Failure World α → Prop
  | .ok a w, .ok b v => a = b ∧ Disk.AgreeOff base off w.disk v.disk
  | .error f w, .error g v => f = g ∧ Disk.AgreeOff base off w.disk v.disk
  | _, _ => False

/-- A run ends in the same way wherever the disks agree off some places. -/
def IgnoresOff (base : Disk) (off : Place → Prop) (x : Run α) : Prop :=
  ∀ w v, Disk.AgreeOff base off w.disk v.disk → SameOff base off (x w) (x v)

/-- Two runs that end in the same way succeed or fail. -/
theorem sameOff_cases {r s : EStateM.Result Failure World α} (h : SameOff base off r s) :
    (∃ a w v, r = .ok a w ∧ s = .ok a v ∧ Disk.AgreeOff base off w.disk v.disk) ∨
      ∃ f w v, r = .error f w ∧ s = .error f v ∧ Disk.AgreeOff base off w.disk v.disk := by
  cases r with
  | ok a w =>
      cases s with
      | ok b v =>
          obtain ⟨rfl, hagree⟩ := h
          exact Or.inl ⟨a, w, v, rfl, rfl, hagree⟩
      | error g v =>
          exact h.elim
  | error f w =>
      cases s with
      | ok b v =>
          exact h.elim
      | error g v =>
          obtain ⟨rfl, hagree⟩ := h
          exact Or.inr ⟨f, w, v, rfl, rfl, hagree⟩

theorem ignoresOff_pure (a : α) : IgnoresOff base off (pure a : Run α) := fun _ _ h => ⟨rfl, h⟩

theorem ignoresOff_fail (f : Failure) : IgnoresOff base off (fail f : Run α) :=
  fun _ _ h => ⟨rfl, h⟩

theorem ignoresOff_report (e : Event) : IgnoresOff base off (report e) := fun _ _ h => ⟨rfl, h⟩

theorem ignoresOff_reportAll (es : List Event) : IgnoresOff base off (reportAll es) :=
  fun _ _ h => ⟨rfl, h⟩

/-- A run that goes on behind another, with a result that this can have. -/
theorem IgnoresOff.bind_of_ok {x : Run α} {f : α → Run β} (hx : IgnoresOff base off x)
    (hf : ∀ w a w', w.disk.working = base.working → x w = .ok a w' → IgnoresOff base off (f a)) :
    IgnoresOff base off (x >>= f) := by
  intro w v h
  change SameOff base off (EStateM.bind x f w) (EStateM.bind x f v)
  unfold EStateM.bind
  rcases sameOff_cases (hx w v h) with ⟨a, w', v', hw, hv, h'⟩ | ⟨e, w', v', hw, hv, h'⟩
  · rw [hw, hv]
    exact hf w a w' h.left hw w' v' h'
  · rw [hw, hv]
    exact ⟨rfl, h'⟩

theorem IgnoresOff.bind {x : Run α} {f : α → Run β} (hx : IgnoresOff base off x)
    (hf : ∀ a, IgnoresOff base off (f a)) : IgnoresOff base off (x >>= f) :=
  hx.bind_of_ok fun _ a _ _ _ => hf a

/-- A run that goes on with what it has seen of the disk. -/
theorem ignoresOff_disk_bind {f : Disk → Run β}
    (hf : ∀ w v : World, Disk.AgreeOff base off w.disk v.disk →
      SameOff base off (f w.disk w) (f v.disk v)) : IgnoresOff base off (disk >>= f) := hf

theorem IgnoresOff.onFailure {body : Run α} {amends : Run Unit} (hbody : IgnoresOff base off body)
    (hamends : IgnoresOff base off amends) : IgnoresOff base off (onFailure body amends) := by
  intro w v h
  unfold Run.onFailure
  rcases sameOff_cases (hbody w v h) with ⟨a, w', v', hw, hv, h'⟩ | ⟨e, w', v', hw, hv, h'⟩
  · rw [hw, hv]
    exact ⟨rfl, h'⟩
  · rw [hw, hv]
    dsimp only
    rcases sameOff_cases (hamends w' v' h') with ⟨a, w'', v'', hw, hv, h''⟩ |
      ⟨e', w'', v'', hw, hv, h''⟩ <;> rw [hw, hv] <;> exact ⟨rfl, h''⟩

theorem ignoresOff_change {s : Step} {f : Disk → Except Disk.Fault Disk}
    (hf : ∀ d e, Disk.AgreeOff base off d e → Disk.MatchesOff base off (f d) (f e)) :
    IgnoresOff base off (change s f) := by
  refine ignoresOff_disk_bind fun w v h => ?_
  rcases Disk.matchesOff_cases (hf _ _ h) with ⟨fault, hw, hv⟩ | ⟨d, e, hw, hv, h'⟩
  · rw [hw, hv]
    exact ⟨rfl, h⟩
  · rw [hw, hv]
    exact ⟨rfl, World.agreeOff_withDisk h' w v⟩

theorem ignoresOff_read {s : Step} {f : Disk → Except Disk.Fault α}
    (hf : ∀ d e, Disk.AgreeOff base off d e → f d = f e) : IgnoresOff base off (read s f) := by
  refine ignoresOff_disk_bind fun w v h => ?_
  rw [hf _ _ h]
  cases f v.disk <;> exact ⟨rfl, h⟩

theorem ignoresOff_makeFolders {s : Step} {p : Path} (hp : base.Avoids off p) :
    IgnoresOff base off (makeFolders s p) := by
  refine ignoresOff_disk_bind fun w v h => ?_
  obtain ⟨hagree, hfault⟩ := h.makeFolders hp
  cases hw : w.disk.makeFolders p with
  | mk d fault =>
      cases hv : v.disk.makeFolders p with
      | mk e fault' =>
          rw [hw, hv] at hagree hfault
          obtain rfl : fault = fault' := hfault
          cases fault <;> exact ⟨rfl, hagree⟩

/-- An attempt to remove a folder, after which the run goes on in one way or another. -/
theorem ignoresOff_attempt {op : Disk → Except Disk.Fault Disk} {f : Disk.Fault → Run Unit}
    (hop : ∀ d e, Disk.AgreeOff base off d e → Disk.MatchesOff base off (op d) (op e))
    (hf : ∀ fault, IgnoresOff base off (f fault)) :
    IgnoresOff base off (disk >>= fun d =>
      match op d with
      | .ok d => modify fun w => { w with disk := d }
      | .error fault => f fault) := by
  refine ignoresOff_disk_bind fun w v h => ?_
  rcases Disk.matchesOff_cases (hop _ _ h) with ⟨fault, hw, hv⟩ | ⟨d, e, hw, hv, h'⟩
  · rw [hw, hv]
    exact hf fault w v h
  · rw [hw, hv]
    exact ⟨rfl, h'⟩

/-- Two runs end in the same way, up to one place. -/
def SameBut (base : Disk) (place : Place) :
    EStateM.Result Failure World α → EStateM.Result Failure World α → Prop
  | .ok a w, .ok b v => a = b ∧ Disk.AgreeBut base place w.disk v.disk
  | .error f w, .error g v => f = g ∧ Disk.AgreeBut base place w.disk v.disk
  | _, _ => False

/-- A run ends in the same way wherever the disks agree but for one place. -/
def Ignores (base : Disk) (place : Place) (x : Run α) : Prop :=
  ∀ w v, Disk.AgreeBut base place w.disk v.disk → SameBut base place (x w) (x v)

theorem sameBut_iff {r s : EStateM.Result Failure World α} :
    SameBut base place r s ↔ SameOff base (· = place) r s := by
  cases r <;> cases s <;> simp only [SameBut, SameOff, Disk.agreeBut_iff]

/-- A run that ignores a place ignores the places that are this one. -/
theorem ignores_iff {x : Run α} : Ignores base place x ↔ IgnoresOff base (· = place) x := by
  simp only [Ignores, IgnoresOff, sameBut_iff, Disk.agreeBut_iff]

theorem sameBut_cases {r s : EStateM.Result Failure World α} (h : SameBut base place r s) :
    (∃ a w v, r = .ok a w ∧ s = .ok a v ∧ Disk.AgreeBut base place w.disk v.disk) ∨
      ∃ f w v, r = .error f w ∧ s = .error f v ∧ Disk.AgreeBut base place w.disk v.disk := by
  simp only [Disk.agreeBut_iff]
  exact sameOff_cases (sameBut_iff.mp h)

end Run

/-!
## What runs touch, and how they fail

A run touches only some places if a disk that agrees with a base off these places still does so at
the end, however the run ends.  A run fails in some ways only if each of its failures is one of
these.  Both hold of a run that is put together from steps of which they hold.

* `Touches.bind`, `touches_change`, `touches_makeFolders`, `touches_attempt`: what runs touch;
* `FailsWith.bind`, `failsWith_change`: how they fail.
-/

namespace Run

variable {α β : Type} {base : Disk} {off : Place → Prop} {P : Failure → Prop}

/-- A run touches only some places. -/
def Touches (base : Disk) (off : Place → Prop) (x : Run α) : Prop :=
  ∀ w, Disk.AgreeOff base off base w.disk → Disk.AgreeOff base off base (last (x w)).disk

/-- Each failure of a run passes a test. -/
def FailsWith (P : Failure → Prop) (x : Run α) : Prop := ∀ w f w', x w = .error f w' → P f

theorem touches_pure (a : α) : Touches base off (pure a : Run α) := fun _ h => h

theorem touches_fail (f : Failure) : Touches base off (fail f : Run α) := fun _ h => h

theorem touches_report (e : Event) : Touches base off (report e) := fun _ h => h

theorem Touches.bind {x : Run α} {f : α → Run β} (hx : Touches base off x)
    (hf : ∀ a, Touches base off (f a)) : Touches base off (x >>= f) := by
  intro w h
  have hmiddle := hx w h
  change Disk.AgreeOff base off base (last (EStateM.bind x f w)).disk
  unfold EStateM.bind
  cases hw : x w with
  | ok a v =>
      rw [hw] at hmiddle
      exact hf a v hmiddle
  | error e v =>
      rw [hw] at hmiddle
      exact hmiddle

theorem touches_change {s : Step} {f : Disk → Except Disk.Fault Disk}
    (hf : ∀ d e, Disk.AgreeOff base off base d → f d = .ok e → Disk.AgreeOff base off base e) :
    Touches base off (change s f) := by
  intro w h
  cases hw : change s f w with
  | ok u w' =>
      obtain ⟨d, hd, rfl⟩ := change_eq_ok_iff.mp hw
      exact (hf _ _ h hd).of_found (World.working_withDisk w d) (World.found_withDisk w d)
  | error e w' =>
      obtain ⟨-, -, -, rfl⟩ := change_eq_error_iff.mp hw
      exact h

theorem Touches.onFailure {body : Run α} {amends : Run Unit} (hbody : Touches base off body)
    (hamends : Touches base off amends) : Touches base off (onFailure body amends) := by
  intro w h
  have hmiddle := hbody w h
  cases hw : Run.onFailure body amends w with
  | ok a w' =>
      rw [onFailure_eq_ok_iff.mp hw] at hmiddle
      exact hmiddle
  | error e w' =>
      obtain ⟨v, hfail, rfl⟩ := onFailure_eq_error_iff.mp hw
      rw [hfail] at hmiddle
      exact hamends v hmiddle

/-- An attempt to change the disk, after which the run goes on in one way or another. -/
theorem touches_attempt {op : Disk → Except Disk.Fault Disk} {f : Disk.Fault → Run Unit}
    (hop : ∀ d e, Disk.AgreeOff base off base d → op d = .ok e → Disk.AgreeOff base off base e)
    (hf : ∀ fault, Touches base off (f fault)) :
    Touches base off (disk >>= fun d =>
      match op d with
      | .ok d => modify fun w => { w with disk := d }
      | .error fault => f fault) := by
  intro w h
  rw [disk_bind]
  cases hw : op w.disk with
  | ok d =>
      exact hop _ d h hw
  | error fault =>
      exact hf fault w h

theorem touches_read {s : Step} {f : Disk → Except Disk.Fault α} :
    Touches base off (read s f) := by
  intro w h
  cases hw : read s f w with
  | ok a w' =>
      rw [(read_eq_ok_iff.mp hw).2]
      exact h
  | error e w' =>
      obtain ⟨-, -, -, rfl⟩ := read_eq_error_iff.mp hw
      exact h

theorem touches_makeFolders {s : Step} {p : Path}
    (hp : ∀ d, Disk.AgreeOff base off base d → Disk.AgreeOff base off base (d.makeFolders p).1) :
    Touches base off (makeFolders s p) := by
  intro w h
  cases hw : makeFolders s p w with
  | ok u w' =>
      rw [(makeFolders_eq_ok_iff.mp hw).2]
      exact hp _ h
  | error e w' =>
      obtain ⟨-, -, -, rfl⟩ := makeFolders_eq_error_iff.mp hw
      exact hp _ h

theorem failsWith_pure (a : α) : FailsWith P (pure a : Run α) := fun _ _ _ h =>
  absurd h pure_ne_error

theorem failsWith_report (e : Event) : FailsWith P (report e) := fun _ _ _ h =>
  absurd h report_ne_error

theorem failsWith_fail {f : Failure} (hf : P f) : FailsWith P (fail f : Run α) := by
  intro w e w' h
  rw [(fail_eq_error_iff.mp h).1]
  exact hf

theorem FailsWith.bind {x : Run α} {f : α → Run β} (hx : FailsWith P x)
    (hf : ∀ a, FailsWith P (f a)) : FailsWith P (x >>= f) := by
  intro w e w' h
  rcases bind_eq_error_iff.mp h with hfirst | ⟨a, v, -, hsecond⟩
  · exact hx w e w' hfirst
  · exact hf a v e w' hsecond

theorem FailsWith.onFailure {body : Run α} {amends : Run Unit} (hbody : FailsWith P body) :
    FailsWith P (onFailure body amends) := by
  intro w e w' h
  obtain ⟨v, hfail, -⟩ := onFailure_eq_error_iff.mp h
  exact hbody w e v hfail

theorem failsWith_change {s : Step} {f : Disk → Except Disk.Fault Disk}
    (hs : ∀ fault : Disk.Fault, P (fault.during s)) : FailsWith P (change s f) := by
  intro w e w' h
  obtain ⟨fault, -, rfl, -⟩ := change_eq_error_iff.mp h
  exact hs fault

theorem failsWith_read {s : Step} {f : Disk → Except Disk.Fault α}
    (hs : ∀ fault : Disk.Fault, P (fault.during s)) : FailsWith P (read s f) := by
  intro w e w' h
  obtain ⟨fault, -, rfl, -⟩ := read_eq_error_iff.mp h
  exact hs fault

theorem failsWith_makeFolders {s : Step} {p : Path}
    (hs : ∀ fault : Disk.Fault, P (fault.during s)) : FailsWith P (makeFolders s p) := by
  intro w e w' h
  obtain ⟨fault, -, rfl, -⟩ := makeFolders_eq_error_iff.mp h
  exact hs fault

end Run

end IconAssets
