import IconAssets.Proofs.Json.Shapes
import IconAssets.Proofs.Pipeline.Accounting
import IconAssets.Proofs.Pipeline.Compiling

/-!
# Which documents are configurations

A configuration is an object that gives each directory at most once, as a string or as nothing,
among any other members.  An array is a configuration too: its items are the directories in order.
No other document is one, and neither is any text that is no document.

* `Config.parse_eq_ok_iff`: the documents that are configurations;
* `Pipeline.parse_iff_or_missed`: what becomes of runs whose configuration is another text.
-/

namespace IconAssets

namespace Config

open Json

variable {t v key : Text} {c c' : Config} {keys : List Text}

/-- A field that is a string or nothing. -/
def pathField (key : Text) (set : Config → Option Text → Config) : Json.Field Config :=
  ⟨key, false, fun c t => (readTextOrNull t).map fun r => (set c r.1, r.2)⟩

def setPhosphor (c : Config) (x : Option Text) : Config := { c with phosphorPath := x }

def setIonicons (c : Config) (x : Option Text) : Config := { c with ioniconsPath := x }

theorem fields_shape :
    shape.fields = [pathField phosphorKey setPhosphor, pathField ioniconsKey setIonicons] := rfl

theorem find?_phosphor : shape.fields.find? (fun f => f.key = phosphorKey) =
    some (pathField phosphorKey setPhosphor) := rfl

theorem find?_ionicons : shape.fields.find? (fun f => f.key = ioniconsKey) =
    some (pathField ioniconsKey setIonicons) := rfl

theorem allExact_fields : Shape.AllExact shape.fields := by
  have hexact (key : Text) (set : Config → Option Text → Config) (c : Config) :
      Json.IsExact ((pathField key set).read c) := isExact_readTextOrNull.map (set c)
  rw [fields_shape]
  exact List.forall_mem_cons.mpr ⟨hexact _ _, List.forall_mem_singleton.mpr (hexact _ _)⟩

theorem allOptional_fields : Shape.AllOptional shape.fields := by
  rw [fields_shape]
  exact List.forall_mem_cons.mpr ⟨rfl, List.forall_mem_singleton.mpr rfl⟩

theorem read_pathField {set : Config → Option Text → Config} (hv : IsValue v) :
    (pathField key set).read c v = .ok (c', []) ↔ ∃ x, IsOptionalString v x ∧ set c x = c' := by
  constructor
  · intro h
    obtain ⟨⟨x, rest⟩, hread, heq⟩ := map_eq_ok_iff.mp h
    obtain ⟨rfl, rfl⟩ := Prod.mk.inj heq
    exact ⟨x, (readTextOrNull_value hv).mp hread, rfl⟩
  · rintro ⟨x, hx, rfl⟩
    exact map_eq_ok_iff.mpr ⟨(x, []), (readTextOrNull_value hv).mpr hx, rfl⟩

theorem adds_pathField {set : Config → Option Text → Config}
    (hfind : shape.fields.find? (fun f => f.key = key) = some (pathField key set))
    (hv : IsValue v) {state : Config × List Text} :
    shape.Adds (c, keys) key v state ↔
      key ∉ keys ∧ ∃ x, IsOptionalString v x ∧ state = (set c x, key :: keys) := by
  constructor
  · intro h
    cases h with
    | field hsome hnew hread =>
        rw [hfind] at hsome
        cases hsome
        obtain ⟨x, hx, rfl⟩ := (read_pathField hv).mp hread
        exact ⟨hnew, x, hx, rfl⟩
    | other hnone =>
        rw [hfind] at hnone
        cases hnone
  · rintro ⟨hnew, x, hx, rfl⟩
    exact .field hfind hnew ((read_pathField hv).mpr ⟨x, hx, rfl⟩)

theorem adds_other (hphosphor : key ≠ phosphorKey) (hionicons : key ≠ ioniconsKey)
    {state state' : Config × List Text} : shape.Adds state key v state' ↔ state' = state := by
  have hfind : shape.fields.find? (fun f => f.key = key) = none := by
    rw [fields_shape]
    simp [pathField, Ne.symm hphosphor, Ne.symm hionicons]
  constructor
  · intro h
    cases h with
    | field hsome _ _ =>
        rw [hfind] at hsome
        cases hsome
    | other _ =>
        rfl
  · rintro rfl
    exact .other hfind

/-- A member with the key of a field that has not been read is read into this field. -/
theorem exists_steps_cons {set : Config → Option Text → Config} {entries : List (Text × Text)}
    (hfind : shape.fields.find? (fun f => f.key = key) = some (pathField key set))
    (hv : IsValue v) :
    (∃ keys', Steps shape.Adds (c, keys) ((key, v) :: entries) (c', keys')) ↔
      key ∉ keys ∧ ∃ x, IsOptionalString v x ∧
        ∃ keys', Steps shape.Adds (set c x, key :: keys) entries (c', keys') := by
  simp only [steps_cons_iff, adds_pathField hfind hv]
  constructor
  · rintro ⟨keys', state, ⟨hnew, x, hx, rfl⟩, hsteps⟩
    exact ⟨hnew, x, hx, keys', hsteps⟩
  · rintro ⟨hnew, x, hx, keys', hsteps⟩
    exact ⟨keys', _, ⟨hnew, x, hx, rfl⟩, hsteps⟩

/-- **What the members of an object do to a configuration**: each field is read from the members
with its key, and from nothing else. -/
theorem steps_iff {entries : List (Text × Text)} (hvalues : ∀ e ∈ entries, IsValue e.2) :
    (∃ keys', Steps shape.Adds (c, keys) entries (c', keys')) ↔
      Fits phosphorKey keys c.phosphorPath (valuesOf phosphorKey entries) c'.phosphorPath ∧
        Fits ioniconsKey keys c.ioniconsPath (valuesOf ioniconsKey entries) c'.ioniconsPath ∧
          c'.base = c.base := by
  -- A field may be filled as long as its key has not been read, so the keys vary with the record.
  induction entries generalizing c keys with
  | nil =>
      simp only [steps_nil_iff, valuesOf_nil, fits_nil]
      constructor
      · rintro ⟨keys', heq⟩
        cases heq
        exact ⟨rfl, rfl, rfl⟩
      · rintro ⟨hphosphor, hionicons, hbase⟩
        refine ⟨keys, Prod.ext ?_ rfl⟩
        cases c'
        cases c
        cases hphosphor
        cases hionicons
        cases hbase
        rfl
  | cons e entries ih =>
      obtain ⟨key, v⟩ := e
      obtain ⟨hv, hvalues⟩ : IsValue v ∧ ∀ e ∈ entries, IsValue e.2 :=
        List.forall_mem_cons.mp hvalues
      have htail (c : Config) (keys : List Text) := @ih c keys hvalues
      by_cases hphosphor : key = phosphorKey
      · subst hphosphor
        have hne : phosphorKey ≠ ioniconsKey := by decide
        simp only [exists_steps_cons find?_phosphor hv, htail, fits_of_mem List.mem_cons_self,
          fits_cons_of_ne hne, valuesOf_cons_self, valuesOf_cons_of_ne hne, fits_cons]
        constructor
        · rintro ⟨hnew, x, hx, ⟨hnone, rfl⟩, hother, hbase⟩
          exact ⟨⟨hnew, hnone, hx⟩, hother, hbase⟩
        · rintro ⟨⟨hnew, hnone, hx⟩, hother, hbase⟩
          exact ⟨hnew, _, hx, ⟨hnone, rfl⟩, hother, hbase⟩
      · by_cases hionicons : key = ioniconsKey
        · subst hionicons
          simp only [exists_steps_cons find?_ionicons hv, htail, fits_of_mem List.mem_cons_self,
            fits_cons_of_ne hphosphor, valuesOf_cons_self, valuesOf_cons_of_ne hphosphor, fits_cons]
          constructor
          · rintro ⟨hnew, x, hx, hother, ⟨hnone, rfl⟩, hbase⟩
            exact ⟨hother, ⟨hnew, hnone, hx⟩, hbase⟩
          · rintro ⟨hother, ⟨hnew, hnone, hx⟩, hbase⟩
            exact ⟨hnew, _, hx, hother, ⟨hnone, rfl⟩, hbase⟩
        · rw [valuesOf_cons_of_ne hphosphor, valuesOf_cons_of_ne hionicons, ← htail]
          simp only [steps_cons_iff, adds_other hphosphor hionicons, exists_eq_left]

/-- A text is an object in which each directory is given at most once. -/
def InObject (c : Config) (t : Text) : Prop :=
  ∃ entries, HasMembers t entries ∧ AtMostOnce (valuesOf phosphorKey entries) c.phosphorPath ∧
    AtMostOnce (valuesOf ioniconsKey entries) c.ioniconsPath ∧ c.base = none

/-- A text is an array of the directories, the second one or both of which may be missing. -/
def InArray (c : Config) (t : Text) : Prop :=
  ∃ values, HasItems t values ∧ AtMostOnce (values.take 1) c.phosphorPath ∧
    AtMostOnce (values.drop 1) c.ioniconsPath ∧ c.base = none

theorem inOrder_iff {values : List Text} (hvalues : ∀ v ∈ values, IsValue v) :
    Shape.InOrder shape.fields shape.blank values c ↔ AtMostOnce (values.take 1) c.phosphorPath ∧
      AtMostOnce (values.drop 1) c.ioniconsPath ∧ c.base = none := by
  rw [fields_shape]
  constructor
  · intro h
    cases h with
    | nil _ _ =>
        exact ⟨.missing, .missing, rfl⟩
    | cons head tail =>
        obtain ⟨x, hx, rfl⟩ := (read_pathField (hvalues _ (by simp))).mp head
        cases tail with
        | nil _ _ =>
            exact ⟨.once hx, .missing, rfl⟩
        | cons head tail =>
            obtain ⟨y, hy, rfl⟩ := (read_pathField (hvalues _ (by simp))).mp head
            cases tail
            exact ⟨.once hx, .once hy, rfl⟩
  · rintro ⟨hphosphor, hionicons, hbase⟩
    obtain ⟨phosphor, ionicons, base⟩ := c
    obtain rfl : base = none := hbase
    cases values with
    | nil =>
        cases atMostOnce_nil_iff.mp hphosphor
        cases atMostOnce_nil_iff.mp hionicons
        exact .nil _ _
    | cons v values =>
        have hx := (atMostOnce_cons_iff.mp hphosphor).2
        refine .cons ((read_pathField (hvalues v (by simp))).mpr ⟨_, hx, rfl⟩) ?_
        cases values with
        | nil =>
            cases atMostOnce_nil_iff.mp hionicons
            exact .nil _ _
        | cons u values =>
            obtain ⟨rfl, hy⟩ := atMostOnce_cons_iff.mp hionicons
            exact .cons ((read_pathField (hvalues u (by simp))).mpr ⟨_, hy, rfl⟩) (.nil _ _)

/-- **The documents that are configurations**, and which configurations they are. -/
theorem parse_eq_ok_iff : parse t = .ok c ↔ c.InObject t ∨ c.InArray t := by
  unfold parse
  rw [Shape.parse_eq_ok_iff allExact_fields allOptional_fields]
  refine or_congr ?_ ?_
  · refine exists_congr fun entries => ?_
    rw [exists_and_left]
    refine and_congr_right fun hmembers => ?_
    rw [steps_iff (isValue_of_hasMembers hmembers)]
    exact and_congr fits_none_iff (and_congr fits_none_iff Iff.rfl)
  · refine exists_congr fun values => and_congr_right fun hitems => ?_
    exact inOrder_iff (isValue_of_hasItems hitems)

theorem eq_ok_of_toOption {ε α : Type} {x : Except ε α} {a : α} (h : x.toOption = some a) :
    x = .ok a := by
  cases x with
  | error e =>
      cases h
  | ok b =>
      cases h
      rfl

/-- A directory in an array is read, and an array is no object. -/
theorem parse_array :
    parse "[\"icons\"]".toList = .ok ⟨some "icons".toList, none, none⟩ ∧
      ¬∃ entries, HasMembers "[\"icons\"]".toList entries := by
  refine ⟨eq_ok_of_toOption (by decide +kernel), ?_⟩
  -- An object would start with a brace.
  rintro ⟨entries, members, row, ⟨space, space', hspace, -, heq⟩, -⟩
  have hskip : skipSpace "[\"icons\"]".toList = '\x7b' :: (row ++ ['\x7d'] ++ space') := by
    rw [heq]
    exact skipSpace_blank hspace (by decide) _
  have hhead := congrArg List.head? hskip
  rw [List.head?_cons] at hhead
  exact absurd hhead (by decide +kernel)

end Config

namespace Pipeline

open Run

variable {env : Environment} {compiler : Option Compiler} {w : World}

/-- A document that is no configuration cannot be loaded as one. -/
theorem load_of_parse_error {p : Path} {t : Text} {fault : Json.Fault}
    (hread : w.disk.readText p = .ok t) (hparse : Config.parse t = .error fault) :
    Config.load w.disk p = .error ⟨[.parsingConfig p], .json fault⟩ := by
  unfold Config.load Disk.load
  rw [hread]
  dsimp only
  rw [hparse]

/-- A build that has found icons warns before it goes on without its configuration. -/
theorem exists_warning_of_build {o : BuildOptions} {p : Path} {f : Failure}
    (hp : o.config = some p) (hload : Config.load w.disk p = .error f)
    (hicons : (Source.scanTree w.disk o.source).1 ≠ []) :
    ∃ more, (last (build env compiler o w)).events = w.events ++ more ∧
      .configIgnored f ∈ more := by
  have hreport : ∀ (e : Event) (v : World), report e v = .ok () (v.withEvents [e]) :=
    fun _ _ => rfl
  have hconfig (es : List Event) : optionalConfig o.config (w.withEvents es) =
      .ok none ((w.withEvents es).withEvents [.configIgnored f]) := by
    have hsame : Config.load (w.withEvents es).disk p = .error f := hload
    unfold optionalConfig
    rw [hp]
    dsimp only
    rw [disk_bind, hsame]
    rfl
  -- The warning stands behind what the scan has reported, and in front of all that is done then.
  have hbuild : ∃ es, build env compiler o w =
      runOn env compiler (Source.scanTree w.disk o.source).1 (Roots.resolve none o.resources)
        o.output o.platform o.deploymentTarget
          ((w.withEvents es).withEvents [.configIgnored f]) := by
    refine ⟨(Source.scanTree w.disk o.source).2 ++
      [.iconsFound (Source.scanTree w.disk o.source).1.length o.source], ?_⟩
    unfold build runOn
    rw [bind_of_ok (scanTree_eq o.source w), bind_of_ok (hreport _ _), ← World.withEvents_append,
      if_neg hicons, bind_of_ok (hconfig _), if_neg hicons]
  obtain ⟨es, hbuild⟩ := hbuild
  obtain ⟨rest, hevents, -⟩ := (runOn_ends env compiler (Source.scanTree w.disk o.source).1
    (Roots.resolve none o.resources) o.output o.platform o.deploymentTarget
      ((w.withEvents es).withEvents [.configIgnored f])).accounts.reported
  refine ⟨es ++ .configIgnored f :: rest, ?_, by simp⟩
  rw [hbuild, hevents]
  simp [World.withEvents]

/-- **A text is a configuration, or runs miss theirs.**  A configuration is an object or an array of
the two directories.  With any other text in its place a generation fails, and a build that has
found icons warns and ends as it does without a configuration. -/
theorem parse_iff_or_missed (t : Text) :
    (∀ c, Config.parse t = .ok c ↔ c.InObject t ∨ c.InArray t) ∧
    ((∀ c : Config, ¬c.InObject t ∧ ¬c.InArray t) → ∃ fault, Config.parse t = .error fault ∧
      ∀ env compiler w,
        (∀ o : GenerateOptions, w.disk.readText o.config = .ok t →
          ∃ f, generate env compiler o w = .error f w ∧
            ∀ icons, Manifest.load w.disk o.manifest = .ok icons →
              f = ⟨[.loadingConfig, .parsingConfig o.config], .json fault⟩) ∧
        ∀ (o : BuildOptions) (p : Path), o.config = some p → w.disk.readText p = .ok t →
          EndAlike (build env compiler o w) (build env compiler { o with config := none } w) ∧
            ((Source.scanTree w.disk o.source).1 ≠ [] →
              ∃ more, (last (build env compiler o w)).events = w.events ++ more ∧
                .configIgnored ⟨[.parsingConfig p], .json fault⟩ ∈
                  more.filter fun e => e.level = .warn)) := by
  refine ⟨fun c => Config.parse_eq_ok_iff, fun hneither => ?_⟩
  obtain ⟨fault, hfault⟩ : ∃ fault, Config.parse t = .error fault := by
    cases hparse : Config.parse t with
    | error fault =>
        exact ⟨fault, rfl⟩
    | ok c =>
        exact absurd (Config.parse_eq_ok_iff.mp hparse) (not_or.mpr (hneither c))
  refine ⟨fault, hfault, fun env compiler w => ⟨fun o hread => ?_, fun o p hp hread => ?_⟩⟩
  · have hload := load_of_parse_error hread hfault
    rcases loads_or_fails w.disk o with ⟨icons, c, -, hconfig⟩ | ⟨f, hf⟩
    · rw [hload] at hconfig
      cases hconfig
    · refine ⟨f, generate_eq_error hf, fun icons hmanifest => ?_⟩
      cases hf with
      | manifest h =>
          rw [hmanifest] at h
          cases h
      | config _ h =>
          rw [hload] at h
          cases h
          rfl
  · have hload := load_of_parse_error hread hfault
    refine ⟨build_endAlike compiler hp hload, fun hicons => ?_⟩
    obtain ⟨more, hevents, hmem⟩ := exists_warning_of_build hp hload hicons
    exact ⟨more, hevents, List.mem_filter.mpr ⟨hmem, decide_eq_true rfl⟩⟩

/-- A disk with a source file that uses an icon, a manifest, and a number where a directory should
be. -/
def numberDisk : Disk :=
  ⟨[(["s".toList], .folder),
    (["s".toList, "A.swift".toList], .file (Utf8.encode "Image(\"ph.house\")".toList) false),
    (["m.json".toList], .file (Utf8.encode "\x7b\"icons\":[\"ph.house\"]\x7d".toList) false),
    (["c.json".toList], .file (Utf8.encode "\x7b\"phosphorPath\":3\x7d".toList) false)], []⟩

set_option maxRecDepth 4000 in
/-- A number is no directory: a generation fails, and a build warns. -/
theorem parse_iff_or_missed_number :
    ∃ fault, Config.parse "\x7b\"phosphorPath\":3\x7d".toList = .error fault ∧
      generate (fun _ => none) none ⟨⟨"m.json".toList⟩, ⟨"o".toList⟩, ⟨"c.json".toList⟩, none, none⟩
        (.ofDisk numberDisk) =
          .error ⟨[.loadingConfig, .parsingConfig ⟨"c.json".toList⟩], .json fault⟩
            (.ofDisk numberDisk) ∧
      .configIgnored ⟨[.parsingConfig ⟨"c.json".toList⟩], .json fault⟩ ∈
        (last (build (fun _ => none) none
          ⟨⟨"s".toList⟩, ⟨"o".toList⟩, some ⟨"c.json".toList⟩, none, none, none⟩
          (.ofDisk numberDisk))).events.filter fun e => e.level = .warn := by
  have hnone : (Config.parse "\x7b\"phosphorPath\":3\x7d".toList).toOption = none := by
    decide +kernel
  have hread : (World.ofDisk numberDisk).disk.readText ⟨"c.json".toList⟩ =
      .ok "\x7b\"phosphorPath\":3\x7d".toList :=
    Config.eq_ok_of_toOption (by decide +kernel)
  have hmanifest : Manifest.load (World.ofDisk numberDisk).disk ⟨"m.json".toList⟩ =
      .ok ["ph.house".toList] :=
    Config.eq_ok_of_toOption (by decide +kernel)
  have hicons : (Source.scanTree (World.ofDisk numberDisk).disk ⟨"s".toList⟩).1 ≠ [] := by
    decide +kernel
  obtain ⟨hok, hmissed⟩ := parse_iff_or_missed "\x7b\"phosphorPath\":3\x7d".toList
  have hneither (c : Config) : ¬c.InObject "\x7b\"phosphorPath\":3\x7d".toList ∧
      ¬c.InArray "\x7b\"phosphorPath\":3\x7d".toList := by
    rw [← not_or, ← hok c]
    intro h
    rw [h] at hnone
    cases hnone
  obtain ⟨fault, hfault, hruns⟩ := hmissed hneither
  obtain ⟨hgenerate, hbuild⟩ := hruns (fun _ => none) none (.ofDisk numberDisk)
  obtain ⟨f, hf, hcause⟩ := hgenerate
    ⟨⟨"m.json".toList⟩, ⟨"o".toList⟩, ⟨"c.json".toList⟩, none, none⟩ hread
  obtain ⟨-, hwarning⟩ := hbuild
    ⟨⟨"s".toList⟩, ⟨"o".toList⟩, some ⟨"c.json".toList⟩, none, none, none⟩ _ rfl hread
  obtain ⟨more, hevents, hmem⟩ := hwarning hicons
  refine ⟨fault, hfault, ?_, ?_⟩
  · rw [hf, hcause _ hmanifest]
  · rw [hevents]
    exact hmem

end Pipeline
end IconAssets
