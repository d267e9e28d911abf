import IconAssets.Proofs.Catalog.Generation
import IconAssets.Proofs.Ignoring

/-!
# Catalogs that are put together

A catalog is put together in a staging directory of its own.  Whatever its icons are called, nothing
is touched but the inside of this directory; a name with slashes leads deeper into it, never out of
it.  If the catalog cannot be completed, the directory is removed, and all is as it was.

* `writeAll_touches`: what is touched;
* `Stage`, `stage_of_makeStaging`: a staging directory that has been made;
* `Stage.discard`: a staging directory that is removed;
* `assemble_cases`, `generate_cases`: a generation fails with nothing left behind, or comes as far
  as the swap.
-/

namespace IconAssets
namespace Catalog

open Run

variable {roots : Roots} {icons : List Text} {output : Path}

/-- A place is inside of a directory. -/
def Inside (here q : Place) : Prop := here <+: q ∧ q ≠ here

/-- The steps of a swap during which a failure may arise. -/
def swapSteps (output : Path) : List Step :=
  [.removingStale (previousPath (output.child directoryName)),
    .settingAside (output.child directoryName), .moving (output.child directoryName)]

/-- A failure has arisen from the swap. -/
def InSwap (output : Path) (f : Failure) : Prop := ∃ s ∈ swapSteps output, f.steps = [s]

theorem inSwap_during {s : Step} (hs : s ∈ swapSteps output) (fault : Disk.Fault) :
    InSwap output (fault.during s) := ⟨s, hs, rfl⟩

section

variable {P : Failure → Prop}
  (hdisk : ∀ s ∈ swapSteps output, ∀ fault : Disk.Fault, P (fault.during s))

include hdisk

theorem replaceCatalog_failsWith (staging : Path) :
    FailsWith P (replaceCatalog staging (output.child directoryName)) := by
  refine (failsWith_change (hdisk _ (by simp [swapSteps]))).bind fun _ => ?_
  refine (failsWith_change (hdisk _ (by simp [swapSteps]))).onFailure.bind fun _ => ?_
  exact fun _ _ _ h => absurd h removePrevious_ne_error

/-- The failures of a swap are those of its steps. -/
theorem swapIntoPlace_failsWith (staging : Path) :
    FailsWith P (swapIntoPlace staging (output.child directoryName)) := by
  intro w f w' h
  rw [swapIntoPlace_apply] at h
  split at h
  · split at h
    · exact ((failsWith_change (hdisk _ (by simp [swapSteps]))).bind fun _ =>
        replaceCatalog_failsWith hdisk staging) w f w' h
    · exact replaceCatalog_failsWith hdisk staging w f w' h
  · exact failsWith_change (hdisk _ (by simp [swapSteps])) w f w' h

end

theorem not_inSwap_during {s : Step} (hs : s ∉ swapSteps output) (fault : Disk.Fault) :
    ¬InSwap output (fault.during s) := by
  rintro ⟨t, ht, heq⟩
  exact hs ((List.cons.inj heq).1 ▸ ht)

section

variable {base d : Disk} {here : Place} {staging catalog : Path}

theorem here_eq_target (hleads : base.Leads staging here) : here = base.target staging := by
  rw [Disk.target_eq_travel_moves]
  exact hleads.eq_travel

/-- Folders that are made behind the path of a directory, without going up, are inside of it. -/
theorem makeFolders_inside {q : Path} (hleads : base.Leads staging here)
    (haway : base.Avoids (Inside here) staging) (hq : q.isAbsolute = false)
    (hup : ∀ piece ∈ q.moves, Disk.isUp piece = false)
    (h : Disk.AgreeOff base (Inside here) base d) :
    Disk.AgreeOff base (Inside here) base (d.makeFolders (staging.join q)).1 := by
  have hled := h.leads haway hleads
  refine h.trans ((Disk.agreeOff_makeFolders d (staging.join q)).mono ?_)
  rintro r ⟨hr, hnone⟩
  rw [Disk.trail_congr h.right, Disk.mem_trail_join_iff hq, ← here_eq_target hleads] at hr
  rcases hr with hr | hr
  · rw [Disk.mem_trail_iff, ← Disk.start_congr h.right] at hr
    exact absurd hnone (Disk.found_of_mem_stops hled.walk (by simp [hled.start]) hr)
  · refine ⟨Disk.prefix_of_mem_stops hup hr, ?_⟩
    rintro rfl
    rw [hled.found] at hnone
    cases hnone

/-- A file that is written below a directory is inside of it. -/
theorem writeFile_inside {p : Path} {name : Text} {data : Bytes} {e : Disk}
    (hname : Path.IsName name) (hp : here <+: base.target p)
    (h : Disk.AgreeOff base (Inside here) base d)
    (hwrite : d.writeFile (p.child name) data = .ok e) :
    Disk.AgreeOff base (Inside here) base e := by
  refine h.trans ((Disk.agreeOff_writeFile hwrite).mono ?_)
  rintro r rfl
  rw [Disk.target_congr h.right, Disk.target_child base p hname]
  refine ⟨hp.trans (List.prefix_append _ _), fun heq => ?_⟩
  have hlength := hp.length_le
  rw [← heq, List.length_append, List.length_singleton] at hlength
  omega

theorem writeContents_touches {p : Path} (hp : here <+: base.target p) (document : Text) :
    Touches base (Inside here) (writeContents (p.child contentsName) document) :=
  touches_change fun _ _ h => writeFile_inside isName_contentsName hp h

theorem writeEntry_touches {source : Path} {raw : Text} {icon : Identifier}
    (hleads : base.Leads staging here) (haway : base.Avoids (Inside here) staging)
    (hparse : Identifier.parse raw = some icon) :
    Touches base (Inside here) (writeEntry staging catalog icon source) := by
  have hrelative := isAbsolute_imagesetName icon
  have hup : ∀ piece ∈ Path.moves ⟨imagesetName icon.assetName⟩, Disk.isUp piece = false :=
    fun _ => not_up_of_mem_moves_imagesetName hparse
  have hdirectory : here <+: base.target (staging.child (imagesetName icon.assetName)) := by
    rw [Path.child, Disk.target_join base hrelative, ← here_eq_target hleads]
    exact Disk.prefix_of_mem_stops hup (Disk.travel_mem_stops _ _)
  unfold writeEntry
  split
  · exact touches_fail _
  · next filename hfilename =>
    have hname := Path.isName_of_fileName? hfilename
    refine (touches_makeFolders fun _ h => ?_).bind fun _ => touches_read.bind fun data => ?_
    · exact makeFolders_inside hleads haway hrelative hup h
    · refine (touches_change fun _ _ h => writeFile_inside hname hdirectory h).bind fun _ => ?_
      exact (writeContents_touches hdirectory _).bind fun _ => touches_pure _

theorem writeEntries_touches (hleads : base.Leads staging here)
    (haway : base.Avoids (Inside here) staging) (written : List Text) :
    Touches base (Inside here) (writeEntries roots staging catalog written icons) := by
  induction icons generalizing written with
  | nil =>
      exact touches_pure []
  | cons raw icons ih =>
      cases next_cases roots staging catalog written raw icons with
      | passedOver e _ _ hrun =>
          rw [hrun]
          exact (touches_report e).bind fun _ => ih written
      | written hparse _ _ _ hrun =>
          rw [hrun]
          exact (writeEntry_touches hleads haway hparse).bind fun _ =>
            (ih _).bind fun _ => touches_pure _

/-- Putting a catalog together touches nothing but the inside of the staging directory. -/
theorem writeAll_touches (hleads : base.Leads staging here)
    (haway : base.Avoids (Inside here) staging) :
    Touches base (Inside here) (writeAll roots staging catalog icons) := by
  have hhere : here <+: base.target staging := here_eq_target hleads ▸ List.prefix_refl here
  exact (writeEntries_touches hleads haway []).bind fun _ =>
    (writeContents_touches hhere _).bind fun _ => touches_pure _

section

variable {P : Failure → Prop}
  (hdisk : ∀ s ∉ swapSteps output, ∀ fault : Disk.Fault, P (fault.during s))

include hdisk

theorem writeContents_failsWith (p : Path) (document : Text) :
    FailsWith P (writeContents p document) :=
  failsWith_change (hdisk _ (by simp [swapSteps]))

theorem writeEntry_failsWith {icon : Identifier} {source : Path}
    (hname : source.fileName? = none → P ⟨[], .namelessSource source⟩) :
    FailsWith P (writeEntry staging catalog icon source) := by
  unfold writeEntry
  split
  · next hnone => exact failsWith_fail (hname hnone)
  · refine (failsWith_makeFolders (hdisk _ (by simp [swapSteps]))).bind fun _ => ?_
    refine (failsWith_read (hdisk _ (by simp [swapSteps]))).bind fun data => ?_
    refine (failsWith_change (hdisk _ (by simp [swapSteps]))).bind fun _ => ?_
    exact (writeContents_failsWith hdisk _ _).bind fun _ => failsWith_pure _

theorem writeEntries_failsWith
    (hnames : ∀ c ∈ mapped roots icons, c.2.fileName? = none → P ⟨[], .namelessSource c.2⟩)
    (written : List Text) : FailsWith P (writeEntries roots staging catalog written icons) := by
  induction icons generalizing written with
  | nil =>
      exact failsWith_pure []
  | cons raw icons ih =>
      have hrest : ∀ written, FailsWith P (writeEntries roots staging catalog written icons) :=
        ih fun c hc => hnames c (mapped_subset_cons raw icons hc)
      cases next_cases roots staging catalog written raw icons with
      | passedOver e _ _ hrun =>
          rw [hrun]
          exact (failsWith_report e).bind fun _ => hrest written
      | written hparse hpath _ _ hrun =>
          have hname := hnames _ (mem_mapped_of_path List.mem_cons_self hparse hpath)
          rw [hrun]
          exact (writeEntry_failsWith hdisk hname).bind fun _ =>
            (hrest _).bind fun _ => failsWith_pure _

/-- The failures of putting a catalog together are those of its steps, and that of an image without
name. -/
theorem writeAll_failsWith
    (hnames : ∀ c ∈ mapped roots icons, c.2.fileName? = none → P ⟨[], .namelessSource c.2⟩) :
    FailsWith P (writeAll roots staging catalog icons) :=
  (writeEntries_failsWith hdisk hnames []).bind fun _ =>
    (writeContents_failsWith hdisk _ _).bind fun _ => failsWith_pure _

end

theorem not_inSwap_nameless (output source : Path) :
    ¬InSwap output ⟨[], .namelessSource source⟩ := fun ⟨_, _, h⟩ => by cases h

/-- The contents document of a catalog that is complete has a path that can be followed. -/
theorem text_of_writeAll {es : List Entry} {w v : World}
    (h : writeAll roots staging catalog icons w = .ok es v) :
    Disk.textFault? (staging.child contentsName) = none := by
  unfold writeAll at h
  obtain ⟨es', w', -, h⟩ := bind_eq_ok_iff.mp h
  obtain ⟨u, hcontents, -⟩ := bind_pure_eq_ok_iff.mp h
  exact text_of_change hcontents

end

/-- A new directory can be made under a name in the output directory. -/
structure Stage (d : Disk) (output : Path) (folder : Place) (name : Text) : Prop where
  isName : Path.IsName name
  ne_directory : name ≠ directoryName
  ne_previous : name ≠ previousName
  short : Disk.isTooLong name = false
  text : Disk.textFault? ((d.absolute output).child name) = none
  leads : d.Leads (d.absolute output) folder
  free : d.found (folder ++ [name]) = none

/-- A staging directory that is made is a new one in the output directory. -/
theorem stage_of_makeStaging {w w' : World} {staging : Path}
    (h : makeStaging roots output icons w = .ok staging w') :
    ∃ folder,
      staging = (w.disk.absolute output).child (freshName (namesInUse w.disk roots output icons)) ∧
        Stage w.disk output folder (freshName (namesInUse w.disk roots output icons)) ∧
          w' = { w with
            disk := w.disk.put
              (folder ++ [freshName (namesInUse w.disk roots output icons)]) .folder } := by
  obtain ⟨d, rfl, hmake, rfl⟩ := makeStaging_ok h
  have hname := isName_freshName (namesInUse w.disk roots output icons)
  obtain ⟨htext, hshort, folder, hleads, hfree, rfl⟩ :=
    (Disk.makeFolder_child_eq_ok_iff hname).mp hmake
  exact ⟨folder, rfl, ⟨hname, stagingName_ne_of_head (by decide) _,
    stagingName_ne_of_head (by decide) _, hshort, htext, hleads, hfree⟩, rfl⟩

/-- If a staging directory cannot be made, this is the failure, and nothing has been done. -/
theorem makeStaging_eq_error {w w' : World} {f : Failure}
    (h : makeStaging roots output icons w = .error f w') :
    (∃ fault staging, f = ⟨[.creatingStaging output], .diskAt fault staging⟩) ∧ w' = w := by
  unfold makeStaging at h
  rw [disk_bind] at h
  cases hmake : w.disk.makeFolder
      ((w.disk.absolute output).child (freshName (namesInUse w.disk roots output icons))) with
  | error fault =>
      rw [hmake] at h
      obtain ⟨rfl, rfl⟩ := fail_eq_error_iff.mp h
      exact ⟨⟨fault, _, rfl⟩, rfl⟩
  | ok d =>
      rw [hmake] at h
      cases h

theorem not_inSwap_creatingStaging (output staging : Path) (fault : Disk.Fault) :
    ¬InSwap output ⟨[.creatingStaging output], .diskAt fault staging⟩ := by
  rintro ⟨s, hs, heq⟩
  obtain rfl := (List.cons.inj heq).1
  simp [swapSteps] at hs

namespace Stage

variable {d : Disk} {folder : Place} {name : Text} {w : World}

theorem folder_eq (h : Stage d output folder name) : folder = d.target output := by
  rw [← Disk.target_absolute]
  exact here_eq_target h.leads

/-- Once the directory has been made, it is found, and all else as before. -/
theorem found_put (h : Stage d output folder name) (q : Place) :
    (d.put (folder ++ [name]) .folder).found q =
      if q = folder ++ [name] then some .folder else d.found q :=
  Disk.found_put h.leads.found h.free .folder q

/-- The way to the output directory does not pass the new one, since nothing is there. -/
theorem avoids (h : Stage d output folder name) :
    d.Avoids (folder ++ [name] <+: ·) (d.absolute output) := fun _ hr =>
  not_prefix_of_mem_stops h.leads h.free (Disk.mem_trail_iff.mp hr)

theorem leads_put (h : Stage d output folder name) :
    (d.put (folder ++ [name]) .folder).Leads (d.absolute output) folder :=
  (Disk.grows_put h.leads.found h.free .folder).leads h.leads

theorem leads_staging (h : Stage d output folder name) :
    (d.put (folder ++ [name]) .folder).Leads ((d.absolute output).child name)
      (folder ++ [name]) :=
  (Disk.leads_child_iff h.isName).mpr
    ⟨h.short, folder, h.leads_put, rfl, by rw [h.found_put, if_pos rfl]⟩

theorem avoids_staging (h : Stage d output folder name) :
    (d.put (folder ++ [name]) .folder).Avoids (Inside (folder ++ [name]))
      ((d.absolute output).child name) := by
  rintro r hr ⟨hbelow, hne⟩
  change r ∈ d.trail ((d.absolute output).child name) at hr
  rw [Disk.mem_trail_child_iff h.isName] at hr
  rcases hr with hr | rfl
  · exact h.avoids r hr hbelow
  · exact hne (by rw [← here_eq_target h.leads])

variable (hagree : Disk.AgreeOff (d.put (folder ++ [name]) .folder) (Inside (folder ++ [name]))
  (d.put (folder ++ [name]) .folder) w.disk)

include hagree

theorem found_staging (h : Stage d output folder name) :
    w.disk.found (folder ++ [name]) = some .folder := by
  rw [← hagree.found _ fun hinside => hinside.2 rfl, h.found_put, if_pos rfl]

/-- Elsewhere all is as before the directory was made. -/
theorem found_elsewhere (h : Stage d output folder name) {q : Place}
    (hq : ¬folder ++ [name] <+: q) : w.disk.found q = d.found q := by
  rw [← hagree.found q fun hinside => hq hinside.1, h.found_put, if_neg]
  rintro rfl
  exact hq (List.prefix_refl _)

theorem leads_absolute (h : Stage d output folder name) :
    w.disk.Leads (d.absolute output) folder := by
  refine h.leads.of_agree (Disk.start_congr hagree.right _) fun r hr _ => ?_
  exact h.found_elsewhere hagree (h.avoids r (Disk.mem_trail_iff.mpr hr))

theorem leads_output (h : Stage d output folder name) : w.disk.Leads output folder := by
  have habsolute := h.leads_absolute hagree
  rw [← Disk.absolute_congr (e := w.disk) (d := d) hagree.right] at habsolute
  exact habsolute.of_absolute

/-- Whatever has been put into the staging directory, it is removed, and all is as before. -/
theorem discard (h : Stage d output folder name) :
    (last (discard ((d.absolute output).child name) w)).disk.working = d.working ∧
      (last (Catalog.discard ((d.absolute output).child name) w)).disk.found = d.found := by
  have hremove := (Disk.removeFolder_child_eq_ok_iff h.isName).mpr
    ⟨h.text, h.short, folder, h.leads_absolute hagree, h.found_staging hagree, rfl⟩
  have hlast : (last (Catalog.discard ((d.absolute output).child name) w)).disk =
      w.disk.clear (folder ++ [name]) := by
    unfold Catalog.discard
    rw [disk_bind, hremove]
    rfl
  rw [hlast]
  refine ⟨hagree.right, funext fun q => ?_⟩
  rw [Disk.found_clear _ (by simp)]
  split
  · next hbelow =>
    exact (Disk.found_below hbelow h.free).symm
  · next haside =>
    exact h.found_elsewhere hagree haside

omit hagree

/-- A catalog is put together inside of the staging directory, or else the directory is removed and
all is as before. -/
theorem write_cases (h : Stage d output folder name) (roots : Roots) (catalog : Path)
    (icons : List Text) (hw : w.disk = d.put (folder ++ [name]) .folder) :
    (∃ f w',
      onFailure (writeAll roots ((d.absolute output).child name) catalog icons)
          (Catalog.discard ((d.absolute output).child name)) w = .error f w' ∧
        ¬InSwap output f ∧ w'.disk.working = d.working ∧ w'.disk.found = d.found) ∨
      ∃ es v,
        writeAll roots ((d.absolute output).child name) catalog icons w = .ok es v ∧
          Disk.AgreeOff (d.put (folder ++ [name]) .folder) (Inside (folder ++ [name]))
            (d.put (folder ++ [name]) .folder) v.disk := by
  have htouches : Disk.AgreeOff (d.put (folder ++ [name]) .folder) (Inside (folder ++ [name]))
      (d.put (folder ++ [name]) .folder)
      (last (writeAll roots ((d.absolute output).child name) catalog icons w)).disk :=
    writeAll_touches h.leads_staging h.avoids_staging w (by
      rw [hw]
      exact Disk.AgreeOff.refl _ _)
  cases hall : writeAll roots ((d.absolute output).child name) catalog icons w with
  | ok es v =>
      rw [hall] at htouches
      exact Or.inr ⟨es, v, rfl, htouches⟩
  | error f v =>
      rw [hall] at htouches
      obtain ⟨hworking, hfound⟩ := h.discard htouches
      have hearly : FailsWith (fun f => ¬InSwap output f)
          (writeAll roots ((d.absolute output).child name) catalog icons) :=
        writeAll_failsWith (fun _ => not_inSwap_during) fun _ _ _ => not_inSwap_nameless output _
      exact Or.inl ⟨f, _, onFailure_eq_error_iff.mpr ⟨v, hall, rfl⟩, hearly w f v hall, hworking,
        hfound⟩

end Stage

/-- What a generation does when its catalog is complete. -/
def finish (output staging : Path) (es : List Entry) : Run Generated := do
  swapIntoPlace staging (output.child directoryName)
  report (.catalogWritten es.length (output.child directoryName))
  return ⟨output.child directoryName, es⟩

theorem finish_of_swapIntoPlace {staging : Path} {w v : World}
    (h : swapIntoPlace staging (output.child directoryName) w = .ok () v) (es : List Entry) :
    ∃ u, finish output staging es w = .ok ⟨output.child directoryName, es⟩ u ∧
      u.disk = v.disk := by
  unfold finish
  rw [bind_of_ok h]
  exact ⟨_, rfl, rfl⟩

theorem finish_eq_error {staging : Path} {es : List Entry} {w w' : World} {f : Failure}
    (h : finish output staging es w = .error f w') :
    swapIntoPlace staging (output.child directoryName) w = .error f w' := by
  unfold finish at h
  rcases bind_eq_error_iff.mp h with hswap | ⟨_, _, -, hrest⟩
  · exact hswap
  · rcases bind_eq_error_iff.mp hrest with hreport | ⟨_, _, -, hpure⟩
    · exact absurd hreport report_ne_error
    · exact absurd hpure pure_ne_error

/-- What a generation does before its catalog is complete. -/
def assemble (icons : List Text) (roots : Roots) (output : Path) : Run (Path × List Entry) := do
  let staging ← makeStaging roots output icons
  let es ← onFailure (writeAll roots staging (output.child directoryName) icons) (discard staging)
  return (staging, es)

/-- A generation makes the output directory, puts its catalog together and swaps it into place. -/
theorem generate_eq_assemble (icons : List Text) (roots : Roots) (output : Path) :
    generate icons roots output = (do
      Run.makeFolders (.creatingOutput output) output
      let assembled ← assemble icons roots output
      finish output assembled.1 assembled.2) := by
  unfold generate assemble
  simp only [bind_assoc, pure_bind]
  rfl

/-- A catalog has been put together in a staging directory. -/
structure Assembled (icons : List Text) (roots : Roots) (output : Path) (w : World)
    (folder : Place) (name : Text) (es : List Entry) (v : World) : Prop where
  name_eq : name = freshName (namesInUse w.disk roots output icons)
  stage : Stage w.disk output folder name
  run : assemble icons roots output w = .ok ((w.disk.absolute output).child name, es) v
  text : Disk.textFault? (((w.disk.absolute output).child name).child contentsName) = none
  agree : Disk.AgreeOff (w.disk.put (folder ++ [name]) .folder) (Inside (folder ++ [name]))
      (w.disk.put (folder ++ [name]) .folder) v.disk

/-- A catalog is put together, or nothing is left behind. -/
theorem assemble_cases (icons : List Text) (roots : Roots) (output : Path) (w : World) :
    (∃ f w', assemble icons roots output w = .error f w' ∧ ¬InSwap output f ∧
        w'.disk.working = w.disk.working ∧ w'.disk.found = w.disk.found) ∨
      ∃ folder name es v, Assembled icons roots output w folder name es v := by
  unfold assemble
  cases hstaging : makeStaging roots output icons w with
  | error f v =>
      obtain ⟨⟨fault, staging, rfl⟩, rfl⟩ := makeStaging_eq_error hstaging
      exact Or.inl ⟨_, v, bind_eq_error_iff.mpr (Or.inl hstaging),
        not_inSwap_creatingStaging output staging fault, rfl, rfl⟩
  | ok staging v =>
      obtain ⟨folder, rfl, hstage, hmade⟩ := stage_of_makeStaging hstaging
      rw [bind_of_ok hstaging]
      rcases hstage.write_cases roots (output.child directoryName) icons
          (congrArg World.disk hmade) with
        ⟨f, w', hfail, hswap, hsame, hfound⟩ | ⟨es, u, hall, hagree⟩
      · exact Or.inl ⟨f, w', bind_eq_error_iff.mpr (Or.inl hfail), hswap, hsame, hfound⟩
      · refine Or.inr ⟨folder, _, es, u, rfl, hstage, ?_, text_of_writeAll hall, hagree⟩
        unfold assemble
        rw [bind_of_ok hstaging, bind_of_ok (onFailure_eq_ok_iff.mpr hall)]
        rfl

theorem assembled_of_ok {w v : World} {assembled : Path × List Entry}
    (h : assemble icons roots output w = .ok assembled v) :
    ∃ folder name es, assembled = ((w.disk.absolute output).child name, es) ∧
      Assembled icons roots output w folder name es v := by
  rcases assemble_cases icons roots output w with
    ⟨f, w', hfail, -⟩ | ⟨folder, name, es, u, hassembled⟩
  · rw [hfail] at h
    cases h
  · have hrun := hassembled.run
    rw [h] at hrun
    cases hrun
    exact ⟨folder, name, es, rfl, hassembled⟩

/-- A generation fails and leaves nothing behind but the output directory, or it comes as far as the
swap. -/
theorem generate_cases (icons : List Text) (roots : Roots) (output : Path) (w : World) :
    (∃ f w', generate icons roots output w = .error f w' ∧ ¬InSwap output f ∧
        w'.disk.working = w.disk.working ∧
          w'.disk.found = (w.disk.makeFolders output).1.found) ∨
      (w.disk.makeFolders output).2 = none ∧
        ∃ folder name es v,
          Assembled icons roots output { w with disk := (w.disk.makeFolders output).1 } folder name
              es v ∧
            generate icons roots output w =
              finish output (((w.disk.makeFolders output).1.absolute output).child name) es v := by
  have hworking := (Disk.grows_makeFolders w.disk output).working
  rw [generate_eq_assemble]
  cases hopen : Run.makeFolders (.creatingOutput output) output w with
  | error f v =>
      obtain ⟨fault, -, rfl, rfl⟩ := makeFolders_eq_error_iff.mp hopen
      exact Or.inl ⟨_, _, bind_eq_error_iff.mpr (Or.inl hopen),
        not_inSwap_during (by simp [swapSteps]) fault, hworking, rfl⟩
  | ok u v =>
      obtain ⟨hopened, rfl⟩ := makeFolders_eq_ok_iff.mp hopen
      rw [bind_of_ok hopen]
      rcases assemble_cases icons roots output { w with disk := (w.disk.makeFolders output).1 } with
        ⟨f, w', hfail, hswap, hsame, hfound⟩ | ⟨folder, name, es, v, hassembled⟩
      · exact Or.inl ⟨f, w', bind_eq_error_iff.mpr (Or.inl hfail), hswap, hsame.trans hworking,
          hfound⟩
      · exact Or.inr ⟨hopened, folder, name, es, v, hassembled, bind_of_ok hassembled.run _⟩

end Catalog
end IconAssets
