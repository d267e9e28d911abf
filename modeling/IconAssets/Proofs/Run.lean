import IconAssets.Proofs.Disk.Grows
import IconAssets.World

/-!
# Runs that succeed, and runs that fail

A run that succeeds has taken its steps one after the other, and each of them has succeeded; a run
that fails does so at its first step that fails.  What a step that changes the disk leaves behind is
the changed disk, up to what has been sent to streams.

* `bind_eq_ok_iff`, `bind_eq_error_iff`: a run that goes on behind another;
* `change_eq_ok_iff`, `read_eq_ok_iff`, `makeFolders_eq_ok_iff`: single steps that succeed;
* `change_eq_error_iff`, `read_eq_error_iff`, `makeFolders_eq_error_iff`: single steps that fail;
* `last`: the world at the end, in either case;
* `found_withDisk`: what is found after a change;
* `succeedsWith`, `failsWhere`: how a given run ends.
-/

namespace IconAssets

namespace World

@[simp] theorem working_withDisk (w : World) (d : Disk) :
    (w.withDisk d).disk.working = d.working := by
  unfold withDisk
  split <;> rfl

/-- After a change the same is found as on the changed disk. -/
@[simp] theorem found_withDisk (w : World) (d : Disk) :
    (w.withDisk d).disk.found = d.found := by
  unfold withDisk
  split
  · rfl
  · exact Disk.found_sent d

/-- What lets a disk grow still does after sending. -/
theorem grows_withDisk {d e : Disk} (h : d.Grows e) (w : World) : d.Grows (w.withDisk e).disk :=
  ⟨by rw [working_withDisk, h.working], by rw [found_withDisk]; exact h.found⟩

end World

namespace Run

variable {α β : Type} {w w' : World}

/-- A run that goes on behind another succeeds if both do. -/
theorem bind_eq_ok_iff {x : Run α} {f : α → Run β} {b : β} :
    (x >>= f) w = .ok b w' ↔ ∃ a v, x w = .ok a v ∧ f a v = .ok b w' := by
  change EStateM.bind x f w = .ok b w' ↔ _
  unfold EStateM.bind
  cases x w with
  | ok a v =>
      simp
  | error e v =>
      simp

/-- A run behind one that succeeds goes on from there. -/
theorem bind_of_ok {x : Run α} {a : α} (h : x w = .ok a w') (f : α → Run β) :
    (x >>= f) w = f a w' := by
  change EStateM.bind x f w = f a w'
  unfold EStateM.bind
  rw [h]

/-- A run that starts with a look at the disk goes on with what it sees. -/
theorem disk_bind (f : Disk → Run β) (w : World) : (disk >>= f) w = f w.disk w := rfl

theorem pure_eq_ok_iff {a b : α} : (pure a : Run α) w = .ok b w' ↔ b = a ∧ w' = w := by
  change EStateM.Result.ok a w = .ok b w' ↔ _
  simp [eq_comm]

theorem fail_ne_ok {f : Failure} {a : α} : (fail f : Run α) w ≠ .ok a w' := by
  intro h
  cases h

theorem report_eq_ok_iff {e : Event} {u : Unit} :
    report e w = .ok u w' ↔ w' = { w with events := w.events ++ [e] } := by
  change EStateM.Result.ok () _ = .ok u w' ↔ _
  simp [eq_comm]

theorem report_bind_eq_ok_iff {e : Event} {f : Unit → Run β} {b : β} :
    (report e >>= f) w = .ok b w' ↔ f () { w with events := w.events ++ [e] } = .ok b w' := by
  rw [bind_eq_ok_iff]
  constructor
  · rintro ⟨u, v, hreport, h⟩
    rw [report_eq_ok_iff.mp hreport] at h
    exact h
  · intro h
    exact ⟨(), _, report_eq_ok_iff.mpr rfl, h⟩

/-- A run that ends with a result. -/
theorem bind_pure_eq_ok_iff {x : Run α} {f : α → β} {b : β} :
    (x >>= fun a => pure (f a)) w = .ok b w' ↔ ∃ a, x w = .ok a w' ∧ b = f a := by
  rw [bind_eq_ok_iff]
  constructor
  · rintro ⟨a, v, hx, hf⟩
    obtain ⟨rfl, rfl⟩ := pure_eq_ok_iff.mp hf
    exact ⟨a, hx, rfl⟩
  · rintro ⟨a, hx, rfl⟩
    exact ⟨a, w', hx, pure_eq_ok_iff.mpr ⟨rfl, rfl⟩⟩

theorem modify_eq_ok_iff {f : World → World} {u : Unit} :
    (modify f : Run Unit) w = .ok u w' ↔ w' = f w := by
  change EStateM.Result.ok () (f w) = .ok u w' ↔ _
  simp [eq_comm]

/-- A change that succeeds leaves the changed disk behind. -/
theorem change_eq_ok_iff {s : Step} {f : Disk → Except Disk.Fault Disk} {u : Unit} :
    change s f w = .ok u w' ↔ ∃ d, f w.disk = .ok d ∧ w' = w.withDisk d := by
  unfold change
  rw [disk_bind]
  cases f w.disk with
  | ok d =>
      simpa using modify_eq_ok_iff
  | error e =>
      simpa using fail_ne_ok

/-- A file that has been written during a step has a path that can be followed. -/
theorem text_of_change {s : Step} {p : Path} {data : Bytes} {u : Unit}
    (h : change s (fun d => d.writeFile p data) w = .ok u w') : Disk.textFault? p = none := by
  obtain ⟨d, hwrite, -⟩ := change_eq_ok_iff.mp h
  exact Disk.text_of_writeFile hwrite

theorem read_eq_ok_iff {s : Step} {f : Disk → Except Disk.Fault α} {a : α} :
    read s f w = .ok a w' ↔ f w.disk = .ok a ∧ w' = w := by
  unfold read
  rw [disk_bind]
  cases f w.disk with
  | ok b =>
      simpa [eq_comm] using @pure_eq_ok_iff _ w w' b a
  | error e =>
      simpa using fail_ne_ok

/-- The making of folders succeeds if all of them can be made. -/
theorem makeFolders_eq_ok_iff {s : Step} {p : Path} {u : Unit} :
    makeFolders s p w = .ok u w' ↔
      (w.disk.makeFolders p).2 = none ∧ w' = { w with disk := (w.disk.makeFolders p).1 } := by
  unfold makeFolders
  rw [disk_bind]
  cases w.disk.makeFolders p with
  | mk d fault =>
      simp only [bind_eq_ok_iff, modify_eq_ok_iff]
      cases fault with
      | none =>
          simp [pure_eq_ok_iff]
      | some e =>
          simpa using fail_ne_ok

/-- Amends are made for failures only. -/
theorem onFailure_eq_ok_iff {body : Run α} {amends : Run Unit} {a : α} :
    onFailure body amends w = .ok a w' ↔ body w = .ok a w' := by
  unfold onFailure
  cases body w with
  | ok b v =>
      rfl
  | error e v =>
      cases hamends : amends v <;> simp [hamends]

/-- A run that goes on behind another fails if this fails, or if it fails itself. -/
theorem bind_eq_error_iff {x : Run α} {f : α → Run β} {e : Failure} :
    (x >>= f) w = .error e w' ↔
      x w = .error e w' ∨ ∃ a v, x w = .ok a v ∧ f a v = .error e w' := by
  change EStateM.bind x f w = .error e w' ↔ _
  unfold EStateM.bind
  cases x w with
  | ok a v =>
      simp
  | error e v =>
      simp

theorem pure_ne_error {a : α} {e : Failure} : (pure a : Run α) w ≠ .error e w' := by
  intro h
  cases h

theorem report_ne_error {event : Event} {e : Failure} : report event w ≠ .error e w' := by
  intro h
  cases h

theorem fail_eq_error_iff {f e : Failure} :
    (fail f : Run α) w = .error e w' ↔ e = f ∧ w' = w := by
  change EStateM.Result.error f w = .error e w' ↔ _
  simp [eq_comm]

/-- A change that fails leaves the world as it was. -/
theorem change_eq_error_iff {s : Step} {f : Disk → Except Disk.Fault Disk} {e : Failure} :
    change s f w = .error e w' ↔
      ∃ fault, f w.disk = .error fault ∧ e = fault.during s ∧ w' = w := by
  unfold change
  rw [disk_bind]
  cases f w.disk with
  | ok d =>
      constructor
      · intro h
        cases h
      · rintro ⟨fault, h, -⟩
        cases h
  | error fault =>
      simpa using fail_eq_error_iff

theorem read_eq_error_iff {s : Step} {f : Disk → Except Disk.Fault α} {e : Failure} :
    read s f w = .error e w' ↔ ∃ fault, f w.disk = .error fault ∧ e = fault.during s ∧ w' = w := by
  unfold read
  rw [disk_bind]
  cases f w.disk with
  | ok b =>
      constructor
      · intro h
        cases h
      · rintro ⟨fault, h, -⟩
        cases h
  | error fault =>
      simpa using fail_eq_error_iff

/-- The making of folders that fails may leave some of them behind. -/
theorem makeFolders_eq_error_iff {s : Step} {p : Path} {e : Failure} :
    makeFolders s p w = .error e w' ↔
      ∃ fault, (w.disk.makeFolders p).2 = some fault ∧ e = fault.during s ∧
        w' = { w with disk := (w.disk.makeFolders p).1 } := by
  unfold makeFolders
  rw [disk_bind]
  cases w.disk.makeFolders p with
  | mk d fault =>
      simp only [bind_eq_error_iff, modify_eq_ok_iff]
      cases fault with
      | none =>
          constructor
          · rintro (h | ⟨u, v, -, h⟩)
            · cases h
            · cases h
          · rintro ⟨fault, h, -⟩
            cases h
      | some fault =>
          constructor
          · rintro (h | ⟨u, v, rfl, h⟩)
            · cases h
            · obtain ⟨rfl, rfl⟩ := fail_eq_error_iff.mp h
              exact ⟨fault, rfl, rfl, rfl⟩
          · rintro ⟨fault', h, rfl, rfl⟩
            cases h
            exact Or.inr ⟨(), _, rfl, fail_eq_error_iff.mpr ⟨rfl, rfl⟩⟩

/-- The world at the end of a run. -/
def last : EStateM.Result Failure World α → World
  | .ok _ w => w
  | .error _ w => w

@[simp] theorem last_ok (a : α) (w : World) : last (.ok a w) = w := rfl

@[simp] theorem last_error (e : Failure) (w : World) :
    last (.error e w : EStateM.Result Failure World α) = w := rfl

/-- Amends are made behind a failure, which stands. -/
theorem onFailure_eq_error_iff {body : Run α} {amends : Run Unit} {e : Failure} :
    onFailure body amends w = .error e w' ↔ ∃ v, body w = .error e v ∧ w' = last (amends v) := by
  unfold onFailure
  cases body w with
  | ok b v =>
      simp
  | error f v =>
      cases hamends : amends v <;> simp [hamends, eq_comm]

/-- Whether a run succeeds with a result and a world that pass a test. -/
def succeedsWith (x : Run α) (w : World) (test : α → World → Bool) : Bool :=
  match x w with
  | .ok a w' => test a w'
  | .error _ _ => false

/-- A run that succeeds has a result and a world that pass the test. -/
theorem exists_ok_of_succeedsWith {x : Run α} {test : α → World → Bool}
    (h : succeedsWith x w test = true) : ∃ a w', x w = .ok a w' ∧ test a w' = true := by
  unfold succeedsWith at h
  cases hx : x w with
  | ok a w' =>
      rw [hx] at h
      exact ⟨a, w', rfl, h⟩
  | error e w' =>
      rw [hx] at h
      cases h

/-- Whether a run fails with a failure and a world that pass a test. -/
def failsWhere (x : Run α) (w : World) (test : Failure → World → Bool) : Bool :=
  match x w with
  | .ok _ _ => false
  | .error f w' => test f w'

/-- A run that fails has a failure and a world that pass the test. -/
theorem exists_error_of_failsWhere {x : Run α} {test : Failure → World → Bool}
    (h : failsWhere x w test = true) : ∃ f w', x w = .error f w' ∧ test f w' = true := by
  unfold failsWhere at h
  cases hx : x w with
  | ok a w' =>
      rw [hx] at h
      cases h
  | error f w' =>
      rw [hx] at h
      exact ⟨f, w', rfl, h⟩

end Run
end IconAssets
