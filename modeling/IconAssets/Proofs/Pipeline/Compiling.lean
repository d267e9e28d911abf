import IconAssets.Proofs.Pipeline
import IconAssets.Proofs.Pipeline.Phases

/-!
# Asking the compiler

Only a run that has written a catalog asks a compiler.

## Runs that produce nothing

A run that ends without a catalog leaves the disk alone: no directory is made for the output, and
the catalog and the bundle that are there stay.  The compiler is not asked then, nor is it asked
when the catalog cannot be written.

* `World.Untouched`: only events have been added;
* `Idle`: what a run on icons leaves alone, depending on its end;
* `build_generate_idle`: builds and generations do.
-/

namespace IconAssets

/-- The disk is as it was, the compiler has not been asked, and nothing has been sent. -/
structure World.Untouched (w w' : World) : Prop where
  disk : w'.disk = w.disk
  requests : w'.requests = w.requests
  sendings : w'.sendings = w.sendings

theorem World.untouched_withEvents (w : World) (es : List Event) : w.Untouched (w.withEvents es) :=
  ⟨rfl, rfl, rfl⟩

/-- Whether a run has ended without a catalog. -/
def Outcome.isEmpty : Outcome → Bool
  | .noIcons | .nothingValid _ => true
  | .generated .. => false

namespace Pipeline

open Run

variable {env : Environment} {compiler : Option Compiler} {icons : List Text} {roots : Roots}
  {output : Path} {platform deployment : Option Text} {w : World}
  {r : EStateM.Result Failure World Outcome}

/-- What a run on icons leaves alone.  It fails just when it writes a catalog, from a world as it
was at the beginning, and this fails. -/
structure Idle (w : World) (roots : Roots) (icons : List Text) (output : Path)
    (r : EStateM.Result Failure World Outcome) : Prop where
  empty : ∀ {outcome w'}, r = .ok outcome w' → outcome.isEmpty = true → w.Untouched w'
  fails : ∃ v, w.Untouched v ∧ ∀ f w', r = .error f w' ↔
    (Image.validate w.disk roots icons).valid ≠ [] ∧
      Catalog.generate (Image.validate w.disk roots icons).valid roots output v = .error f w'
  unasked : ∀ {f w'}, r = .error f w' → w'.requests = w.requests

theorem Idle.of_withEvents {more : List Event} (h : Idle (w.withEvents more) roots icons output r) :
    Idle w roots icons output r := by
  obtain ⟨hempty, ⟨v, hv, hfails⟩, hunasked⟩ := h
  exact ⟨fun hr hoc => ⟨(hempty hr hoc).1, (hempty hr hoc).2, (hempty hr hoc).3⟩,
    ⟨v, ⟨hv.1, hv.2, hv.3⟩, hfails⟩, hunasked⟩

theorem Ends.idle (h : Ends env compiler icons roots output platform deployment w r) :
    Idle w roots icons output r := by
  have hwarned : w.Untouched (warned roots icons w) := w.untouched_withEvents _
  cases h with
  | noIcons hicons =>
      subst hicons
      refine ⟨?_, ⟨w, ⟨rfl, rfl, rfl⟩, fun f w' => ⟨nofun, fun h => absurd rfl h.1⟩⟩, nofun⟩
      rintro outcome w' ⟨⟩ -
      exact ⟨rfl, rfl, rfl⟩
  | nothingValid hicons hvalid =>
      refine ⟨?_, ⟨_, hwarned, fun f w' => ⟨nofun, fun h => absurd hvalid h.1⟩⟩, nofun⟩
      rintro outcome w' ⟨⟩ -
      exact ⟨rfl, rfl, rfl⟩
  | @failed f w' hvalid hgenerate =>
      have hreported := @generate_warned_reports icons roots output w
      rw [hgenerate] at hreported
      refine ⟨nofun, ⟨_, hwarned, fun f w' => ?_⟩, ?_⟩
      · rw [hgenerate]
        exact ⟨fun h => ⟨hvalid, by cases h; rfl⟩, fun h => by cases h.2; rfl⟩
      · rintro f w' ⟨⟩
        exact hreported.requests
  | generated hvalid hgenerate hcompile =>
      refine ⟨?_, ⟨_, hwarned, fun f w' => ?_⟩, nofun⟩
      · rintro outcome w' ⟨⟩ hempty
        cases hempty
      · rw [hgenerate]
        exact ⟨nofun, fun h => nomatch h.2⟩

/-- **Runs that produce nothing touch nothing.**  A build leaves alone what a run on the icons of
its source tree does.  A generation does so with the icons of its manifest, unless it cannot read the
manifest or the configuration: then it fails, and nothing has happened. -/
theorem build_generate_idle (env : Environment) (compiler : Option Compiler) (w : World) :
    (∀ o : BuildOptions, Idle w (o.roots w.disk) (Source.scanTree w.disk o.source).1 o.output
      (build env compiler o w)) ∧
    ∀ o : GenerateOptions,
      (∃ icons c, Manifest.load w.disk o.manifest = .ok icons ∧
        Config.load w.disk o.config = .ok c ∧
          Idle w (Roots.resolve (some c) none) icons o.output (generate env compiler o w)) ∨
      ∃ f w', LoadingFails w.disk o f ∧ generate env compiler o w = .error f w' ∧
        w.Untouched w' := by
  refine ⟨fun o => ?_, fun o => ?_⟩
  · obtain ⟨more, -, hbuild⟩ := @build_eq_runOn env compiler o w
    rw [hbuild]
    exact (runOn_ends ..).idle.of_withEvents
  · rcases loads_or_fails w.disk o with ⟨icons, c, hmanifest, hconfig⟩ | ⟨f, hf⟩
    · refine .inl ⟨icons, c, hmanifest, hconfig, ?_⟩
      rw [generate_eq_runOn hmanifest hconfig]
      exact (runOn_ends ..).idle
    · exact .inr ⟨f, w, hf, generate_eq_error hf, rfl, rfl, rfl⟩

end Pipeline

/-!
## Runs with and without a compiler

A compiler is asked once, when a catalog has been written, and never else.  A run with a compiler
and one without go the same way up to there, and from there on only the bundle tells them apart:
no answer of the compiler makes a run fail.

* `request`: what a compiler is asked;
* `Compiled`: what two runs have in common, the second of which has a compiler;
* `runOn_compiled`: two runs on the same icons;
* `runOn_endAlike`: what has been reported before makes no difference;
* `build_generate_compiled`: builds and generations.
-/

/-- A compiler that leaves the disk alone. -/
def Compiler.LeavesDisk (compiler : Compiler) : Prop := ∀ request d, (compiler request d).2 = d

namespace Pipeline

open Run

variable {env : Environment} {compiler : Compiler} {icons : List Text} {roots : Roots}
  {output : Path} {platform deployment : Option Text} {w v : World}
  {r s : EStateM.Result Failure World Outcome}

/-- What a compiler is asked about a catalog. -/
def request (env : Environment) (output : Path) (platform deployment : Option Text)
    (catalog : Path) : Compile.Request :=
  ⟨catalog, output.child Catalog.bundleName, (Platform.resolve env platform deployment).value⟩

/-- How two runs end that start from the same world, the first one without a compiler. -/
inductive Compiled (env : Environment) (compiler : Compiler) (output : Path)
    (platform deployment : Option Text) (w : World) :
    EStateM.Result Failure World Outcome → EStateM.Result Failure World Outcome → Prop
  | failed {f : Failure} {v : World} (hunasked : v.requests = w.requests) :
      Compiled env compiler output platform deployment w (.error f v) (.error f v)
  | empty {outcome : Outcome} {v : World} (hempty : outcome.isEmpty = true)
      (hunasked : v.requests = w.requests) :
      Compiled env compiler output platform deployment w (.ok outcome v) (.ok outcome v)
  | generated {g : Catalog.Generated} {invalid : List Text} {compiled : Option Path}
      {verdict : Compile.Verdict} {v v' : World} (hunasked : v.requests = w.requests)
      (hasked : v'.requests = w.requests ++ [request env output platform deployment g.path])
      (hanswer : compiler (request env output platform deployment g.path) v.disk =
        (verdict, v'.disk))
      (hcompiled : compiled =
        if verdict.compiled then some (output.child Catalog.bundleName) else none) :
      Compiled env compiler output platform deployment w
        (.ok (.generated g invalid none) v) (.ok (.generated g invalid compiled) v')

/-- A compiler that leaves the disk alone makes no difference to it. -/
theorem Compiled.disk_eq (h : Compiled env compiler output platform deployment w r s)
    (hleaves : compiler.LeavesDisk) : (last s).disk = (last r).disk := by
  cases h with
  | failed _ =>
      rfl
  | empty _ _ =>
      rfl
  | @generated g _ _ _ v v' _ _ hanswer _ =>
      have hdisk := hleaves (request env output platform deployment g.path) v.disk
      rwa [hanswer] at hdisk

theorem Compiled.of_withEvents {more : List Event}
    (h : Compiled env compiler output platform deployment (w.withEvents more) r s) :
    Compiled env compiler output platform deployment w r s := by
  cases h with
  | failed hunasked =>
      exact .failed hunasked
  | empty hempty hunasked =>
      exact .empty hempty hunasked
  | generated hunasked hasked hanswer hcompiled =>
      exact .generated hunasked hasked hanswer hcompiled

/-- A compiler is asked once, and its answer decides about the bundle. -/
theorem compileCatalog_some (env : Environment) (compiler : Compiler) (output : Path)
    (platform deployment : Option Text) (catalog : Path) (w : World) :
    ∃ v, compileCatalog env (some compiler) output platform deployment catalog w =
        .ok (if (compiler (request env output platform deployment catalog) w.disk).1.compiled
          then some (output.child Catalog.bundleName) else none) v ∧
      v.disk = (compiler (request env output platform deployment catalog) w.disk).2 ∧
        v.requests = w.requests ++ [request env output platform deployment catalog] := by
  unfold compileCatalog request
  dsimp only
  rw [bind_of_ok (compile_eq compiler _ w)]
  split
  · exact ⟨_, rfl, rfl, rfl⟩
  · exact ⟨_, rfl, rfl, rfl⟩

theorem runOn_compiled (env : Environment) (compiler : Compiler) (icons : List Text)
    (roots : Roots) (output : Path) (platform deployment : Option Text) (w : World) :
    Compiled env compiler output platform deployment w
      (runOn env none icons roots output platform deployment w)
      (runOn env (some compiler) icons roots output platform deployment w) := by
  have hwarned : reportAll ((Image.validate w.disk roots icons).invalid.map .iconInvalid) w =
      .ok () (warned roots icons w) := rfl
  unfold runOn
  split
  · exact .empty rfl rfl
  · unfold generateFrom
    rw [disk_bind, disk_bind, bind_of_ok hwarned, bind_of_ok hwarned]
    split
    · exact .empty rfl rfl
    · -- Both write the catalog in the same world; only then the compiler is asked.
      have hreported := @generate_warned_reports icons roots output w
      cases hgenerate : Catalog.generate (Image.validate w.disk roots icons).valid roots output
          (warned roots icons w) with
      | error f v =>
          rw [hgenerate] at hreported
          rw [bind_eq_error_iff.mpr (.inl hgenerate), bind_eq_error_iff.mpr (.inl hgenerate)]
          exact .failed hreported.requests
      | ok g v =>
          rw [hgenerate] at hreported
          have hunasked : v.requests = w.requests := hreported.requests
          obtain ⟨v', hcompile, hdisk, hasked⟩ :=
            compileCatalog_some env compiler output platform deployment g.path v
          rw [bind_of_ok hgenerate, bind_of_ok hgenerate, bind_of_ok hcompile]
          exact .generated hunasked (hasked.trans (by rw [hunasked])) (Prod.ext rfl hdisk.symm) rfl

theorem compileCatalog_endAlike {catalog : Path} (compiler : Option Compiler)
    (h : w.disk = v.disk) :
    EndAlike (compileCatalog env compiler output platform deployment catalog w)
      (compileCatalog env compiler output platform deployment catalog v) := by
  cases compiler with
  | none =>
      exact .ok none h
  | some compiler =>
      obtain ⟨w', hw, hdisk, -⟩ :=
        compileCatalog_some env compiler output platform deployment catalog w
      obtain ⟨v', hv, hdisk', -⟩ :=
        compileCatalog_some env compiler output platform deployment catalog v
      rw [hw, hv, h]
      exact .ok _ (by rw [hdisk, hdisk', h])

/-- Runs on the same icons that start from the same disk end alike. -/
theorem runOn_endAlike (compiler : Option Compiler) (h : w.disk = v.disk) :
    EndAlike (runOn env compiler icons roots output platform deployment w)
      (runOn env compiler icons roots output platform deployment v) := by
  unfold runOn
  split
  · exact .ok _ h
  · unfold generateFrom
    rw [disk_bind, disk_bind, h]
    refine EndAlike.bind (.ok () h) fun _ {w v} h => ?_
    split
    · exact .ok _ h
    · refine ((generate_valid_reports ..).endAlike h).bind fun g {w v} h => ?_
      exact (compileCatalog_endAlike compiler h).bind fun _ {w v} h => .ok _ h

/-- A build that ignores its configuration ends as it does without one. -/
theorem build_endAlike {o : BuildOptions} {p : Path} {f : Failure} (compiler : Option Compiler)
    (hp : o.config = some p) (hload : Config.load w.disk p = .error f) :
    EndAlike (build env compiler o w) (build env compiler { o with config := none } w) := by
  obtain ⟨more, -, hbuild⟩ := exists_build_eq_runOn o w
  obtain ⟨more', -, hbuild'⟩ := exists_build_eq_runOn { o with config := none } w
  have hroots : o.roots w.disk = BuildOptions.roots { o with config := none } w.disk := by
    unfold BuildOptions.roots
    rw [hp, Option.bind_some, hload]
    rfl
  rw [hbuild, hbuild', hroots]
  exact runOn_endAlike compiler rfl

/-- A disk with a source file that uses an icon, a directory with its image, and a configuration
that cannot be read. -/
def misreadDisk : Disk :=
  ⟨[(["s".toList], .folder),
    (["s".toList, "A.swift".toList], .file (Utf8.encode "Image(\"ph.house\")".toList) false),
    (["r".toList], .folder), (["r".toList, "phosphor".toList], .folder),
    (["r".toList, "phosphor".toList, "regular".toList], .folder),
    (["r".toList, "phosphor".toList, "regular".toList, "house.svg".toList], .file [60] false),
    (["c.json".toList], .file (Utf8.encode "\x7b".toList) false)], []⟩

/-- A build that names a configuration and a directory with images. -/
def misreadBuild : BuildOptions :=
  ⟨⟨"s".toList⟩, ⟨"o".toList⟩, some ⟨"c.json".toList⟩, some ⟨"r".toList⟩, none, none⟩

end Pipeline

end IconAssets
