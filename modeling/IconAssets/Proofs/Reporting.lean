import IconAssets.Proofs.Run

/-!
# What runs report

A run adds to what has been reported before, and takes nothing back.  It reports only events of a
kind if all that it adds is of this kind, however it ends, and if it does not ask the compiler.  The
requests to the compiler are kept beside the events.  Reports are written and never read: whatever
has been reported before, a run ends alike.

* `World.Reported`: what is added;
* `EndAlike`: two runs that end with the same result or failure, on the same disk;
* `Reports.bind`, `Reports.onFailure`: runs that are put together;
* `reports_report`, `reports_change`, `reports_makeFolders`, `reports_attempt`: single steps.
-/

namespace IconAssets

variable {P : Event → Prop}

/-- Only events of a kind have been added to what was reported, and no request has been made. -/
structure World.Reported (P : Event → Prop) (w w' : World) : Prop where
  requests : w'.requests = w.requests
  events : ∃ more, w'.events = w.events ++ more ∧ ∀ e ∈ more, P e

namespace World.Reported

variable {w v u : World}

theorem refl (P : Event → Prop) (w : World) : w.Reported P w :=
  ⟨rfl, [], (List.append_nil _).symm, by simp⟩

theorem trans (h : w.Reported P v) (h' : v.Reported P u) : w.Reported P u := by
  obtain ⟨hrequests, first, hfirst, hkind⟩ := h
  obtain ⟨hrequests', second, hsecond, hkind'⟩ := h'
  refine ⟨hrequests'.trans hrequests, first ++ second, ?_, fun e he => ?_⟩
  · rw [hsecond, hfirst, List.append_assoc]
  · exact (List.mem_append.mp he).elim (hkind e) (hkind' e)

/-- What is done to the disk reports nothing. -/
theorem of_events (hrequests : v.requests = w.requests) (hevents : v.events = w.events) :
    w.Reported P v :=
  ⟨hrequests, [], by rw [hevents, List.append_nil], by simp⟩

theorem withDisk (w : World) (d : Disk) : w.Reported P (w.withDisk d) := by
  unfold World.withDisk
  split <;> exact of_events rfl rfl

end World.Reported

/-- Sending leaves the same disk behind, whatever has been reported. -/
theorem World.disk_withDisk_congr (w v : World) (d : Disk) :
    (w.withDisk d).disk = (v.withDisk d).disk := by
  unfold withDisk
  split <;> rfl

namespace Run

variable {α β : Type} {w v : World}

/-- Two runs end alike: with the same result or the same failure, on the same disk. -/
inductive EndAlike :
    EStateM.Result Failure World α → EStateM.Result Failure World α → Prop
  | ok {w v : World} (a : α) (h : w.disk = v.disk) : EndAlike (.ok a w) (.ok a v)
  | error {w v : World} (f : Failure) (h : w.disk = v.disk) : EndAlike (.error f w) (.error f v)

theorem EndAlike.bind {x : Run α} {f : α → Run β} (hx : EndAlike (x w) (x v))
    (hf : ∀ a {w v : World}, w.disk = v.disk → EndAlike (f a w) (f a v)) :
    EndAlike ((x >>= f) w) ((x >>= f) v) := by
  change EndAlike (EStateM.bind x f w) (EStateM.bind x f v)
  unfold EStateM.bind
  generalize x w = r, x v = s at hx
  cases hx with
  | ok a h =>
      exact hf a h
  | error e h =>
      exact .error e h

/-- A run reports only events of a kind, and makes no requests.  How it ends depends on the disk
only. -/
structure Reports (P : Event → Prop) (x : Run α) : Prop where
  reported : ∀ w : World, w.Reported P (last (x w))
  endAlike : ∀ {w v : World}, w.disk = v.disk → EndAlike (x w) (x v)

theorem reports_pure (a : α) : Reports P (pure a : Run α) := ⟨World.Reported.refl P, .ok a⟩

theorem reports_fail (f : Failure) : Reports P (fail f : Run α) :=
  ⟨World.Reported.refl P, .error f⟩

theorem reports_report {e : Event} (h : P e) : Reports P (report e) :=
  ⟨fun _ => ⟨rfl, [e], rfl, by simpa using h⟩, fun h => .ok () h⟩

theorem Reports.bind {x : Run α} {f : α → Run β} (hx : Reports P x) (hf : ∀ a, Reports P (f a)) :
    Reports P (x >>= f) := by
  refine ⟨fun w => ?_, fun h => (hx.endAlike h).bind fun a => (hf a).endAlike⟩
  have hfirst := hx.reported w
  change w.Reported P (last (EStateM.bind x f w))
  unfold EStateM.bind
  cases hw : x w with
  | ok a v =>
      rw [hw] at hfirst
      exact hfirst.trans ((hf a).reported v)
  | error e v =>
      rw [hw] at hfirst
      exact hfirst

theorem EndAlike.onFailure {body : Run α} {amends : Run Unit} (hbody : EndAlike (body w) (body v))
    (hamends : ∀ {w v : World}, w.disk = v.disk → EndAlike (amends w) (amends v)) :
    EndAlike (Run.onFailure body amends w) (Run.onFailure body amends v) := by
  unfold Run.onFailure
  generalize body w = r, body v = s at hbody
  cases hbody with
  | ok a h =>
      exact .ok a h
  | @error w v e h =>
      have hend := hamends h
      dsimp only
      generalize amends w = r, amends v = s at hend
      cases hend with
      | ok _ h =>
          exact .error e h
      | error _ h =>
          exact .error e h

theorem Reports.onFailure {body : Run α} {amends : Run Unit} (hbody : Reports P body)
    (hamends : Reports P amends) : Reports P (onFailure body amends) := by
  refine ⟨fun w => ?_, fun h => (hbody.endAlike h).onFailure hamends.endAlike⟩
  have hfirst := hbody.reported w
  cases hw : Run.onFailure body amends w with
  | ok a w' =>
      rwa [onFailure_eq_ok_iff.mp hw] at hfirst
  | error e w' =>
      obtain ⟨v, hfail, rfl⟩ := onFailure_eq_error_iff.mp hw
      rw [hfail] at hfirst
      exact hfirst.trans (hamends.reported v)

/-- What is done after a look at the disk does not depend on what has been reported. -/
theorem reports_disk_bind {f : Disk → Run α} (h : ∀ d, Reports P (f d)) :
    Reports P (disk >>= f) := by
  refine ⟨fun w => (h w.disk).reported w, fun {w v} hdisk => ?_⟩
  rw [disk_bind, disk_bind, hdisk]
  exact (h v.disk).endAlike hdisk

theorem reports_setDisk (d : Disk) :
    Reports P (modify fun w => { w with disk := d } : Run Unit) :=
  ⟨fun _ => .of_events rfl rfl, fun _ => .ok () rfl⟩

theorem reports_withDisk (d : Disk) : Reports P (modify fun w => w.withDisk d : Run Unit) :=
  ⟨fun w => .withDisk w d, fun _ => .ok () (World.disk_withDisk_congr _ _ d)⟩

theorem reports_change {s : Step} {f : Disk → Except Disk.Fault Disk} :
    Reports P (change s f) := by
  refine reports_disk_bind fun d => ?_
  split
  · exact reports_withDisk _
  · exact reports_fail _

theorem reports_read {s : Step} {f : Disk → Except Disk.Fault α} : Reports P (read s f) := by
  refine reports_disk_bind fun d => ?_
  split
  · exact reports_pure _
  · exact reports_fail _

theorem reports_makeFolders {s : Step} {p : Path} : Reports P (makeFolders s p) := by
  refine reports_disk_bind fun d => (reports_setDisk _).bind fun _ => ?_
  split
  · exact reports_pure ()
  · exact reports_fail _

/-- An attempt to change the disk, after which the run goes on in one way or another. -/
theorem reports_attempt {op : Disk → Except Disk.Fault Disk} {f : Disk.Fault → Run Unit}
    (hf : ∀ fault, Reports P (f fault)) :
    Reports P (disk >>= fun d =>
      match op d with
      | .ok d => modify fun w => { w with disk := d }
      | .error fault => f fault) := by
  refine reports_disk_bind fun d => ?_
  split
  · exact reports_setDisk _
  · exact hf _

end Run
end IconAssets
