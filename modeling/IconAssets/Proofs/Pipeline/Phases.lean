import IconAssets.Pipeline
import IconAssets.Proofs.Catalog.Reporting

/-!
# The phases of a run

A build and a generation go on in the same way as soon as they know their icons and the directories
of the images: without icons they are done, without usable icons too, and else a catalog is written
and handed to the compiler.  Up to the catalog nothing on the disk changes.

* `runOn`: what both have in common;
* `build_eq_runOn`, `generate_eq_runOn`: how they come there;
* `generate_eq_error`: a generation that does not come there;
* `Ends`, `runOn_ends`: how it ends.
-/

namespace IconAssets

/-- The world in which some more events have been reported. -/
def World.withEvents (w : World) (es : List Event) : World := { w with events := w.events ++ es }

theorem World.withEvents_append (w : World) (es fs : List Event) :
    w.withEvents (es ++ fs) = (w.withEvents es).withEvents fs := by
  simp [withEvents]

/-- The directories of the images of a build. -/
def BuildOptions.roots (o : BuildOptions) (d : Disk) : Roots :=
  Roots.resolve (o.config.bind fun p => (Config.load d p).toOption) o.resources

/-- The events of a scan are about no icon that is left out. -/
theorem Source.plain_of_mem_scanSights {root : Path} {found : List Text} {sights : List Sight}
    {e : Event} (h : e ∈ (scanSights root found sights).2) : e.Plain := by
  induction sights generalizing found with
  | nil =>
      cases h
  | cons sight more ih =>
      cases sight with
      | outOfReach folder =>
          rcases List.mem_cons.mp h with rfl | h
          · exact ⟨rfl, rfl⟩
          · exact ih h
      | file path data =>
          unfold scanSights at h
          split at h
          · rcases List.mem_cons.mp h with rfl | h
            · exact ⟨rfl, rfl⟩
            · exact ih h
          · rcases List.mem_cons.mp h with rfl | h
            · exact ⟨rfl, rfl⟩
            · exact ih h

theorem Source.plain_of_mem_scanTree {d : Disk} {root : Path} {e : Event}
    (h : e ∈ (scanTree d root).2) : e.Plain := by
  unfold scanTree at h
  split at h
  · exact plain_of_mem_scanSights h
  · rw [List.mem_singleton.mp h]
    exact ⟨rfl, rfl⟩

namespace Pipeline

open Run

variable {env : Environment} {compiler : Option Compiler} {icons : List Text} {roots : Roots}
  {output : Path} {platform deployment : Option Text} {w : World}

/-- What a run does with the icons it starts from. -/
def runOn (env : Environment) (compiler : Option Compiler) (icons : List Text) (roots : Roots)
    (output : Path) (platform deployment : Option Text) : Run Outcome :=
  if icons = [] then pure .noIcons
  else generateFrom env compiler icons roots output platform deployment

theorem scanTree_eq (source : Path) (w : World) :
    scanTree source w = .ok (Source.scanTree w.disk source).1
      (w.withEvents (Source.scanTree w.disk source).2) := rfl

/-- Reading the configuration of a build may report that there is none. -/
theorem optionalConfig_eq (path : Option Path) (w : World) :
    ∃ more, (∀ e ∈ more, Event.Plain e) ∧
      optionalConfig path w =
        .ok (path.bind fun p => (Config.load w.disk p).toOption) (w.withEvents more) := by
  cases path with
  | none =>
      refine ⟨[], by simp, ?_⟩
      simp [optionalConfig, World.withEvents]
      rfl
  | some p =>
      unfold optionalConfig
      dsimp only
      rw [disk_bind, Option.bind_some]
      cases Config.load w.disk p with
      | ok c =>
          refine ⟨[], by simp, ?_⟩
          simp [Except.toOption, World.withEvents]
          rfl
      | error f =>
          exact ⟨[.configIgnored f], by simpa using ⟨rfl, rfl⟩, rfl⟩

/-- A build runs on the icons of its source tree.  What is reported before does not depend on the
compiler. -/
theorem exists_build_eq_runOn (o : BuildOptions) (w : World) :
    ∃ more, (∀ e ∈ more, Event.Plain e) ∧ ∀ env compiler,
      build env compiler o w =
        runOn env compiler (Source.scanTree w.disk o.source).1 (o.roots w.disk) o.output o.platform
          o.deploymentTarget (w.withEvents more) := by
  have hreport : ∀ (e : Event) (v : World), report e v = .ok () (v.withEvents [e]) :=
    fun _ _ => rfl
  have hfound : ∀ e ∈ (Source.scanTree w.disk o.source).2 ++
      [.iconsFound (Source.scanTree w.disk o.source).1.length o.source], Event.Plain e := by
    intro e he
    rcases List.mem_append.mp he with he | he
    · exact Source.plain_of_mem_scanTree he
    · rw [List.mem_singleton.mp he]
      exact ⟨rfl, rfl⟩
  unfold build runOn
  simp only [bind_of_ok (scanTree_eq o.source w), bind_of_ok (hreport _ _),
    ← World.withEvents_append]
  split
  · exact ⟨_, hfound, fun _ _ => rfl⟩
  · obtain ⟨more, hmore, hconfig⟩ := optionalConfig_eq o.config (w.withEvents
      ((Source.scanTree w.disk o.source).2 ++
        [.iconsFound (Source.scanTree w.disk o.source).1.length o.source]))
    refine ⟨((Source.scanTree w.disk o.source).2 ++
      [.iconsFound (Source.scanTree w.disk o.source).1.length o.source]) ++ more,
      fun e he => (List.mem_append.mp he).elim (hfound e) (hmore e), fun env compiler => ?_⟩
    rw [bind_of_ok hconfig, World.withEvents_append w _ more]
    rfl

theorem build_eq_runOn (o : BuildOptions) (w : World) :
    ∃ more, (∀ e ∈ more, Event.Plain e) ∧
      build env compiler o w =
        runOn env compiler (Source.scanTree w.disk o.source).1 (o.roots w.disk) o.output o.platform
          o.deploymentTarget (w.withEvents more) := by
  obtain ⟨more, hmore, hbuild⟩ := exists_build_eq_runOn o w
  exact ⟨more, hmore, hbuild env compiler⟩

/-- Something that has been read is passed on. -/
theorem demand_of_ok {α : Type} {s : Step} {load : Disk → Except Failure α} {x : α}
    (h : load w.disk = .ok x) : demand s load w = .ok x w := by
  unfold demand
  rw [disk_bind, h]
  rfl

/-- Something that cannot be read is missed. -/
theorem demand_of_error {α : Type} {s : Step} {load : Disk → Except Failure α} {f : Failure}
    (h : load w.disk = .error f) : demand s load w = .error (f.during s) w := by
  unfold demand
  rw [disk_bind, h]
  rfl

/-- A generation whose manifest and configuration can be read runs on the icons of the manifest. -/
theorem generate_eq_runOn {o : GenerateOptions} {c : Config}
    (hmanifest : Manifest.load w.disk o.manifest = .ok icons)
    (hconfig : Config.load w.disk o.config = .ok c) :
    generate env compiler o w =
      runOn env compiler icons (Roots.resolve (some c) none) o.output o.platform o.deploymentTarget
        w := by
  unfold generate runOn
  rw [bind_of_ok (demand_of_ok hmanifest), bind_of_ok (demand_of_ok hconfig)]

/-- What keeps a generation from its icons: the manifest, or else the configuration, cannot be
read. -/
inductive LoadingFails (d : Disk) (o : GenerateOptions) : Failure → Prop
  | manifest {f : Failure} (h : Manifest.load d o.manifest = .error f) :
      LoadingFails d o (f.during .takingManifest)
  | config {icons : List Text} {f : Failure} (hmanifest : Manifest.load d o.manifest = .ok icons)
      (h : Config.load d o.config = .error f) : LoadingFails d o (f.during .loadingConfig)

/-- A generation reads its manifest and its configuration, or fails at once. -/
theorem loads_or_fails (d : Disk) (o : GenerateOptions) :
    (∃ icons c, Manifest.load d o.manifest = .ok icons ∧ Config.load d o.config = .ok c) ∨
      ∃ f, LoadingFails d o f := by
  cases hmanifest : Manifest.load d o.manifest with
  | error f =>
      exact .inr ⟨_, .manifest hmanifest⟩
  | ok icons =>
      cases hconfig : Config.load d o.config with
      | error f =>
          exact .inr ⟨_, .config hmanifest hconfig⟩
      | ok c =>
          exact .inl ⟨icons, c, rfl, rfl⟩

theorem generate_eq_error {o : GenerateOptions} {f : Failure} (h : LoadingFails w.disk o f) :
    generate env compiler o w = .error f w := by
  unfold generate
  cases h with
  | manifest h =>
      exact bind_eq_error_iff.mpr (.inl (demand_of_error h))
  | config hmanifest h =>
      rw [bind_of_ok (demand_of_ok hmanifest)]
      exact bind_eq_error_iff.mpr (.inl (demand_of_error h))

/-- The world in which the icons that are not usable have been reported. -/
def warned (roots : Roots) (icons : List Text) (w : World) : World :=
  w.withEvents ((Image.validate w.disk roots icons).invalid.map .iconInvalid)

/-- A generation from usable icons reports nothing about icons that are left out. -/
theorem generate_valid_reports (d : Disk) (roots : Roots) (icons : List Text) (output : Path) :
    Reports Event.Plain
      (Catalog.generate (Image.validate d roots icons).valid roots output) :=
  Catalog.generate_reports output fun _ hraw => Image.pathOf?_ne_none_of_mem_valid hraw

theorem generate_warned_reports :
    (warned roots icons w).Reported Event.Plain
      (last (Catalog.generate (Image.validate w.disk roots icons).valid roots output
        (warned roots icons w))) :=
  (generate_valid_reports ..).reported _

/-- How a run on icons may end. -/
inductive Ends (env : Environment) (compiler : Option Compiler) (icons : List Text) (roots : Roots)
    (output : Path) (platform deployment : Option Text) (w : World) :
    EStateM.Result Failure World Outcome → Prop
  | noIcons (hicons : icons = []) :
      Ends env compiler icons roots output platform deployment w (.ok .noIcons w)
  | nothingValid (hicons : icons ≠ []) (hvalid : (Image.validate w.disk roots icons).valid = []) :
      Ends env compiler icons roots output platform deployment w
        (.ok (.nothingValid (Image.validate w.disk roots icons).invalid)
          ((warned roots icons w).withEvents [.nothingValid]))
  | failed {f : Failure} {w' : World} (hvalid : (Image.validate w.disk roots icons).valid ≠ [])
      (hgenerate : Catalog.generate (Image.validate w.disk roots icons).valid roots output
        (warned roots icons w) = .error f w') :
      Ends env compiler icons roots output platform deployment w (.error f w')
  | generated {g : Catalog.Generated} {compiled : Option Path} {v w' : World}
      (hvalid : (Image.validate w.disk roots icons).valid ≠ [])
      (hgenerate : Catalog.generate (Image.validate w.disk roots icons).valid roots output
        (warned roots icons w) = .ok g v)
      (hcompile : compileCatalog env compiler output platform deployment g.path v =
        .ok compiled w') :
      Ends env compiler icons roots output platform deployment w
        (.ok (.generated g (Image.validate w.disk roots icons).invalid compiled) w')

/-- A compiler gives its answer and changes the disk; it cannot fail. -/
theorem compile_eq (c : Compiler) (request : Compile.Request) (w : World) :
    compile c request w = .ok (c request w.disk).1
      { w with
        disk := (c request w.disk).2
        events := w.events ++ [.compiling request.target]
        requests := w.requests ++ [request] } := rfl

/-- Compiling a catalog never fails, and reports nothing about icons. -/
theorem compileCatalog_ok (env : Environment) (compiler : Option Compiler) (output : Path)
    (platform deployment : Option Text) (catalog : Path) (w : World) :
    ∃ compiled w', compileCatalog env compiler output platform deployment catalog w =
        .ok compiled w' ∧
      ∃ more, w'.events = w.events ++ more ∧ ∀ e ∈ more, Event.Plain e := by
  cases compiler with
  | none =>
      exact ⟨none, w, rfl, [], (List.append_nil _).symm, by simp⟩
  | some c =>
      unfold compileCatalog
      dsimp only
      rw [bind_of_ok (compile_eq c _ w)]
      split
      · exact ⟨_, _, rfl, _, rfl, by simpa using ⟨rfl, rfl⟩⟩
      · refine ⟨_, _, rfl, _, List.append_assoc _ _ _, ?_⟩
        intro e he
        rcases List.mem_append.mp he with he | he <;> rw [List.mem_singleton.mp he] <;>
          exact ⟨rfl, rfl⟩

/-- A run on icons ends in one of these ways. -/
theorem runOn_ends (env : Environment) (compiler : Option Compiler) (icons : List Text)
    (roots : Roots) (output : Path) (platform deployment : Option Text) (w : World) :
    Ends env compiler icons roots output platform deployment w
      (runOn env compiler icons roots output platform deployment w) := by
  unfold runOn
  split
  · next hicons => exact .noIcons hicons
  · next hicons =>
    have hwarned : reportAll ((Image.validate w.disk roots icons).invalid.map .iconInvalid) w =
        .ok () (warned roots icons w) := rfl
    unfold generateFrom
    rw [disk_bind, bind_of_ok hwarned]
    split
    · next hvalid => exact .nothingValid hicons hvalid
    · next hvalid =>
      cases hgenerate : Catalog.generate (Image.validate w.disk roots icons).valid roots output
          (warned roots icons w) with
      | error f w' =>
          rw [bind_eq_error_iff.mpr (.inl hgenerate)]
          exact .failed hvalid hgenerate
      | ok g v =>
          obtain ⟨compiled, w', hcompile, -⟩ :=
            compileCatalog_ok env compiler output platform deployment g.path v
          rw [bind_of_ok hgenerate, bind_of_ok hcompile]
          exact .generated hvalid hgenerate hcompile

end Pipeline
end IconAssets
