import IconAssets.Proofs.Pipeline.Phases

/-!
# No icon is lost

A run tells all icons that it starts from: each is either called invalid, once for every time that
it occurs, or its asset is in the catalog.  Validation and generation look at each icon on their
own; since they agree, a generation never passes over an icon that validation has let through.

* `Image.Unusable`, `Image.validate_eq`: why an icon is not usable;
* `Accounts`: what a run says about the icons it starts from;
* `Ends.accounts`: every run says this;
* `build_generate_accounts`: so do a build and a generation.
-/

namespace IconAssets
namespace Image

/-- Why an icon is not usable: it is no identifier, its provider has no directory, or there is no
file at the path of its image. -/
inductive Unusable (d : Disk) (roots : Roots) (raw : Text) : Prop
  | unparseable (h : Identifier.parse raw = none)
  | unmapped {icon : Identifier} (hparse : Identifier.parse raw = some icon)
      (h : roots.of icon.provider = none)
  | noFile {icon : Identifier} {root : Path} (hparse : Identifier.parse raw = some icon)
      (hroot : roots.of icon.provider = some root) (h : d.isFile (below root icon) = false)

variable {d : Disk} {roots : Roots} {icons : List Text} {raw : Text}

theorem unusable_iff : Unusable d roots raw ↔ isUsable d roots raw = false := by
  unfold isUsable pathOf?
  constructor
  · intro h
    cases h with
    | unparseable h =>
        simp [h]
    | unmapped hparse h =>
        simp [hparse, path?, h]
    | noFile hparse hroot h =>
        simp [hparse, path?, hroot, h]
  · intro h
    cases hparse : Identifier.parse raw with
    | none =>
        exact .unparseable hparse
    | some icon =>
        rw [hparse, Option.bind_some] at h
        cases hroot : roots.of icon.provider with
        | none =>
            exact .unmapped hparse hroot
        | some root =>
            refine .noFile hparse hroot ?_
            simpa [path?, hroot] using h

instance : DecidablePred (Unusable d roots) := fun _ => decidable_of_iff _ unusable_iff.symm

theorem validate_eq (d : Disk) (roots : Roots) (icons : List Text) :
    validate d roots icons = ⟨icons.filter fun raw => ¬Unusable d roots raw,
      icons.filter fun raw => Unusable d roots raw⟩ := by
  have husable : isUsable d roots = fun raw => decide ¬Unusable d roots raw := by
    funext raw
    by_cases h : Unusable d roots raw
    · rw [unusable_iff.mp h, decide_eq_false (not_not_intro h)]
    · rw [decide_eq_true h]
      simpa using mt unusable_iff.mpr h
  unfold validate
  rw [husable]
  simp

end Image

namespace Pipeline

open Run

variable {env : Environment} {compiler : Option Compiler} {icons : List Text} {roots : Roots}
  {output : Path} {platform deployment : Option Text} {w : World}
  {r : EStateM.Result Failure World Outcome}

/-- What a run says about the icons that it starts from: those that are not usable are reported one
by one, and no others are passed over; the assets of the others are in the catalog; and there is no
catalog if there are icons, but none of them is usable. -/
structure Accounts (w : World) (roots : Roots) (icons : List Text)
    (r : EStateM.Result Failure World Outcome) : Prop where
  reported : ∃ more, (last r).events = w.events ++ more ∧
    more.filterMap Event.invalid? = icons.filter (fun raw => Image.Unusable w.disk roots raw) ∧
      ∀ e ∈ more, e.passesOver = false
  generated : ∀ {g invalid compiled w'}, r = .ok (.generated g invalid compiled) w' →
    invalid = icons.filter (fun raw => Image.Unusable w.disk roots raw) ∧
      g.entries.map Catalog.Entry.assetName = firstOccurrences
        ((icons.filter fun raw => ¬Image.Unusable w.disk roots raw).filterMap
          Identifier.canonicalName?)
  nothingValid : ∀ invalid, (∃ w', r = .ok (.nothingValid invalid) w') ↔
    icons ≠ [] ∧ (∀ raw ∈ icons, Image.Unusable w.disk roots raw) ∧ invalid = icons

/-- A list of events that are about no icon that is left out names no such icon. -/
theorem filterMap_invalid?_of_plain {es : List Event} (h : ∀ e ∈ es, e.Plain) :
    es.filterMap Event.invalid? = [] :=
  List.filterMap_eq_nil_iff.mpr fun e he => (h e he).invalid?

/-- What is reported before a run starts from its icons does not count. -/
theorem Accounts.of_withEvents {more : List Event} (hmore : ∀ e ∈ more, e.Plain)
    (h : Accounts (w.withEvents more) roots icons r) : Accounts w roots icons r := by
  refine ⟨?_, h.generated, h.nothingValid⟩
  obtain ⟨rest, hevents, hinvalid, hnone⟩ := h.reported
  refine ⟨more ++ rest, ?_, ?_, fun e he => ?_⟩
  · rw [hevents]
    exact List.append_assoc _ _ _
  · rw [List.filterMap_append, filterMap_invalid?_of_plain hmore]
    exact hinvalid
  · exact (List.mem_append.mp he).elim (fun he => (hmore e he).passesOver) (hnone e)

/-- After the icons that are not usable nothing is reported about icons that are left out. -/
theorem reported_of_warned {w' : World} {more : List Event} (hmore : ∀ e ∈ more, e.Plain)
    (h : w'.events = (warned roots icons w).events ++ more) :
    ∃ more, w'.events = w.events ++ more ∧
      more.filterMap Event.invalid? = icons.filter (fun raw => Image.Unusable w.disk roots raw) ∧
        ∀ e ∈ more, e.passesOver = false := by
  refine ⟨_, h.trans (List.append_assoc _ _ _), ?_, fun e he => ?_⟩
  · have hself : (Event.invalid? ∘ Event.iconInvalid) = some := rfl
    rw [List.filterMap_append, filterMap_invalid?_of_plain hmore, List.filterMap_map, hself,
      List.filterMap_some, List.append_nil, Image.validate_eq]
  · rcases List.mem_append.mp he with he | he
    · obtain ⟨raw, -, rfl⟩ := List.mem_map.mp he
      rfl
    · exact (hmore e he).passesOver

/-- There are usable icons unless none of the icons is usable. -/
theorem valid_eq_nil_iff {d : Disk} :
    (Image.validate d roots icons).valid = [] ↔ ∀ raw ∈ icons, Image.Unusable d roots raw := by
  rw [Image.validate_eq]
  simp [List.filter_eq_nil_iff]

theorem Ends.accounts (h : Ends env compiler icons roots output platform deployment w r) :
    Accounts w roots icons r := by
  cases h with
  | noIcons hicons =>
      subst hicons
      exact ⟨⟨[], by simp⟩, nofun, fun _ => ⟨nofun, fun h => absurd rfl h.1⟩⟩
  | nothingValid hicons hvalid =>
      have hunusable := valid_eq_nil_iff.mp hvalid
      have hinvalid : (Image.validate w.disk roots icons).invalid = icons := by
        rw [Image.validate_eq]
        exact List.filter_eq_self.mpr (by simpa using hunusable)
      have hplain : ∀ e ∈ [Event.nothingValid], e.Plain := by simpa using ⟨rfl, rfl⟩
      refine ⟨reported_of_warned hplain rfl, nofun, fun invalid => ⟨?_, ?_⟩⟩
      · rintro ⟨w', ⟨⟩⟩
        exact ⟨hicons, hunusable, hinvalid⟩
      · rintro ⟨-, -, rfl⟩
        rw [hinvalid]
        exact ⟨_, rfl⟩
  | @failed f w' hvalid hgenerate =>
      have hreported := @generate_warned_reports icons roots output w
      rw [hgenerate] at hreported
      obtain ⟨-, more, hevents, hmore⟩ := hreported
      exact ⟨reported_of_warned hmore hevents, nofun,
        fun _ => ⟨nofun, fun h => absurd (valid_eq_nil_iff.mpr h.2.1) hvalid⟩⟩
  | @generated g compiled v w' hvalid hgenerate hcompile =>
      have hreported := @generate_warned_reports icons roots output w
      rw [hgenerate] at hreported
      obtain ⟨-, more, hevents, hmore⟩ := hreported
      have hentries := Catalog.map_assetName_generate
        (fun _ hraw => Image.pathOf?_ne_none_of_mem_valid hraw) hgenerate
      obtain ⟨compiled', v', hcompile', rest, hrest, hplain⟩ :=
        compileCatalog_ok env compiler output platform deployment g.path v
      rw [hcompile] at hcompile'
      cases hcompile'
      have hall : w'.events = (warned roots icons w).events ++ (more ++ rest) := by
        rw [hrest, ← List.append_assoc, ← hevents, last_ok]
      refine ⟨reported_of_warned
          (fun e he => (List.mem_append.mp he).elim (hmore e) (hplain e)) hall, ?_,
        fun _ => ⟨nofun, fun h => absurd (valid_eq_nil_iff.mpr h.2.1) hvalid⟩⟩
      rintro g invalid compiled w' ⟨⟩
      rw [Image.validate_eq] at hentries ⊢
      exact ⟨rfl, hentries⟩

/-- **A build and a generation account for all of their icons**, those of the source tree and those
of the manifest.  A generation that cannot read its manifest and its configuration fails without a
word. -/
theorem build_generate_accounts (env : Environment) (compiler : Option Compiler) (w : World) :
    (∀ o : BuildOptions, Accounts w (o.roots w.disk) (Source.scanTree w.disk o.source).1
      (build env compiler o w)) ∧
    ∀ o : GenerateOptions,
      (∃ icons c, Manifest.load w.disk o.manifest = .ok icons ∧
        Config.load w.disk o.config = .ok c ∧
          Accounts w (Roots.resolve (some c) none) icons (generate env compiler o w)) ∨
      ∃ f, LoadingFails w.disk o f ∧ generate env compiler o w = .error f w := by
  refine ⟨fun o => ?_, fun o => ?_⟩
  · obtain ⟨more, hmore, hbuild⟩ := @build_eq_runOn env compiler o w
    rw [hbuild]
    exact (runOn_ends ..).accounts.of_withEvents hmore
  · rcases loads_or_fails w.disk o with ⟨icons, c, hmanifest, hconfig⟩ | ⟨f, hf⟩
    · refine .inl ⟨icons, c, hmanifest, hconfig, ?_⟩
      rw [generate_eq_runOn hmanifest hconfig]
      exact (runOn_ends ..).accounts
    · exact .inr ⟨f, hf, generate_eq_error hf⟩

/-- A disk with a source file that uses some icons, a configuration and one image. -/
def mixedDisk : Disk :=
  ⟨[(["s".toList], .folder),
    (["s".toList, "A.swift".toList], .file (Utf8.encode
      "Image(\"ph.house\") Image(\"ph.nope\") Image(\"ph.house.regular\") Image(\"ion.x\")".toList)
      false),
    (["i".toList], .folder), (["i".toList, "regular".toList], .folder),
    (["i".toList, "regular".toList, "house.svg".toList], .file [60] false),
    (["c.json".toList], .file (Utf8.encode "\x7b\"phosphorPath\":\"i\"\x7d".toList) false)], []⟩

set_option maxRecDepth 4000 in
/-- A build with two spellings of one icon, an icon without image and one without directory. -/
theorem build_generate_accounts_mixed :
    ∃ g invalid compiled w',
      build (fun _ => none) none
        ⟨⟨"s".toList⟩, ⟨"o".toList⟩, some ⟨"c.json".toList⟩, none, none, none⟩ (.ofDisk mixedDisk) =
          .ok (.generated g invalid compiled) w' ∧
        invalid = ["ph.nope".toList, "ion.x".toList] ∧
          g.entries.map Catalog.Entry.assetName = ["ph.house".toList] := by
  have hrun : Run.succeedsWith (build (fun _ => none) none
      ⟨⟨"s".toList⟩, ⟨"o".toList⟩, some ⟨"c.json".toList⟩, none, none, none⟩) (.ofDisk mixedDisk)
      (fun outcome _ => outcome matches .generated ..) = true := by
    decide +kernel
  obtain ⟨hbuild, -⟩ := build_generate_accounts (fun _ => none) none (.ofDisk mixedDisk)
  obtain ⟨outcome, w', hok, houtcome⟩ := Run.exists_ok_of_succeedsWith hrun
  cases outcome with
  | noIcons =>
      cases houtcome
  | nothingValid invalid =>
      cases houtcome
  | generated g invalid compiled =>
      obtain ⟨rfl, hentries⟩ := (hbuild _).generated hok
      exact ⟨g, _, compiled, w', hok, by decide +kernel, hentries.trans (by decide +kernel)⟩

end Pipeline
end IconAssets
