import IconAssets.Proofs.Catalog.Completion
import IconAssets.Proofs.Catalog.Reporting
import IconAssets.Proofs.Catalog.Residue
import IconAssets.Proofs.Store

/-!
# What hinders a generation

Icons that are usable have an image that can be read.  So a generation of usable icons fails only if
the output directory cannot be made, if a name or a path in the staging directory is too long, or if
something stands in the way of the swap; and from each of these it does fail.

* `Hindered`: what a generation can fail from;
* `exists_generate_ok`: a generation that is not hindered succeeds;
* `not_hindered_of_generate_ok`: one that succeeds has not been hindered;
* `generate_failsWith_named`: all images of icons have a name;
* `generate_fails_iff`: when a generation fails.
-/

namespace IconAssets
namespace Catalog

open Run

variable {roots : Roots} {icons l : List Text} {output : Path} {w w' : World}

/-- The paths of the files that a generation writes in its staging directory. -/
def stagedPaths (d : Disk) (roots : Roots) (output : Path) (icons : List Text) : List Path :=
  (stagingPath d roots output icons).child contentsName ::
    (chosen roots icons).flatMap fun c => stagedFiles (stagingPath d roots output icons) c.1

/-- Whether the image set of an icon has a name that is too long. -/
def hasLongName (raw : Text) : Bool :=
  (Identifier.parse raw).any fun icon => Disk.isTooLong (imagesetName icon.assetName)

theorem isTooLong_imagesetName {raw : Text} {icon : Identifier}
    (hparse : Identifier.parse raw = some icon) :
    Disk.isTooLong (imagesetName icon.assetName) = hasLongName raw := by
  rw [hasLongName, hparse]
  rfl

/-- What a generation can fail from: the output directory cannot be made; the name of an image set
is too long; the name of the staging directory or the path of a file in it is too long; or something
stands in the way of the swap.  The last ones count once the output directory has been made. -/
inductive Hindered (d : Disk) (roots : Roots) (output : Path) (icons : List Text) : Prop
  | output {fault : Disk.Fault} (h : (d.makeFolders output).2 = some fault)
  | name {raw : Text} (hraw : raw ∈ icons) (h : hasLongName raw = true)
  | staging (h : Disk.isTooLong
      (freshName (namesInUse (d.makeFolders output).1 roots output icons)) = true)
  | path {p : Path} (hp : p ∈ stagedPaths (d.makeFolders output).1 roots output icons)
      (h : Disk.isPathTooLong p = true)
  | swap (h : Blocked (d.makeFolders output).1 output (d.target output))

/-- The image of a usable icon has a name that can be given to a file. -/
theorem fileName_of_isFile {d : Disk} {root : Path} {icon : Identifier}
    (hicon : '/' ∉ icon.baseName) (h : d.isFile (Image.below root icon) = true) :
    Disk.isTooLong (Image.fileName icon) = false ∧ '\x00' ∉ Image.fileName icon := by
  have hname := Image.isName_fileName hicon
  obtain ⟨data, hdata⟩ := Disk.exists_readFile_of_isFile h
  obtain ⟨q, hq⟩ := Disk.resolve_of_readFile hdata
  obtain ⟨front, hfront⟩ := Image.exists_below_eq_child root icon
  rw [hfront] at hq
  obtain ⟨htext, hshort, -⟩ := (Disk.resolve_child_eq_ok_iff hname).mp hq
  exact ⟨hshort, fun hmem => (Disk.textFault?_eq_none_iff.mp htext).1
    ((Path.subset_text_join hname.isAbsolute_mk).2 hmem)⟩

/-- A chosen icon that is usable is spelled without slashes, and its path names a file. -/
theorem of_mem_chosen_valid {d : Disk} (hslash : ∀ raw ∈ l, '/' ∉ raw) {c : Identifier × Path}
    (hc : c ∈ chosen roots (Image.validate d roots l).valid) :
    ∃ raw ∈ (Image.validate d roots l).valid, Identifier.parse raw = some c.1 ∧
      '/' ∉ c.1.baseName ∧ d.isFile c.2 = true ∧ ∃ root, c.2 = Image.below root c.1 := by
  obtain ⟨raw, hraw, hparse, root, -, hsource⟩ := mem_mapped (mem_firstsBy hc)
  obtain ⟨-, -, -, hfile⟩ := of_mem_mapped_valid (mem_firstsBy hc)
  exact ⟨raw, hraw, hparse, Identifier.slash_not_mem_baseName hparse
    (hslash raw (Image.mem_valid_iff.mp hraw).1), hfile, root, hsource⟩

/-- Without NUL in the name of the image, the files of an image set can be followed unless their
paths are too long. -/
theorem textFault?_stagedFiles {staging p : Path} {icon : Identifier}
    (hicon : '/' ∉ icon.baseName) (hnul : '\x00' ∉ Image.fileName icon)
    (hstaging : '\x00' ∉ staging.text) (hp : p ∈ stagedFiles staging icon)
    (hshort : Disk.isPathTooLong p = false) : Disk.textFault? p = none := by
  have hfilename := Image.isName_fileName hicon
  have hdirectory := isName_imagesetName (Identifier.slash_not_mem_assetName hicon)
  have hstem : '\x00' ∉ icon.fileStem := fun hmem =>
    hnul (List.mem_append_left _ (List.mem_append_left _ hmem))
  have hsuffix : '\x00' ∉ ".imageset".toList := by decide
  have hname : '\x00' ∉ imagesetName icon.assetName := fun hmem =>
    (List.mem_append.mp hmem).elim (Identifier.nul_not_mem_assetName hstem) hsuffix
  have hset := Path.nul_not_mem_child hdirectory hstaging hname
  rcases List.mem_pair.mp hp with rfl | rfl
  · exact Disk.textFault?_child hfilename (Path.nul_not_mem_child hfilename hset hnul) hshort
  · exact Disk.textFault?_child isName_contentsName
      (Path.nul_not_mem_child isName_contentsName hset (by decide)) hshort

/-- The paths in the staging directory can be followed unless they are too long. -/
theorem textFault?_stagedPaths {d e : Disk} (hhome : e.HasHome) (hnul : '\x00' ∉ output.text)
    (hslash : ∀ raw ∈ l, '/' ∉ raw) {p : Path}
    (hp : p ∈ stagedPaths e roots output (Image.validate d roots l).valid)
    (hshort : Disk.isPathTooLong p = false) : Disk.textFault? p = none := by
  have hstaging : '\x00' ∉ (stagingPath e roots output (Image.validate d roots l).valid).text :=
    Path.nul_not_mem_child (isName_freshName _) (hhome.nul_not_mem_absolute hnul)
      (nul_not_mem_stagingName _)
  rcases List.mem_cons.mp hp with rfl | hp
  · exact Disk.textFault?_child isName_contentsName
      (Path.nul_not_mem_child isName_contentsName hstaging (by decide)) hshort
  · obtain ⟨c, hc, hp⟩ := List.mem_flatMap.mp hp
    obtain ⟨-, -, -, hicon, hfile, root, hsource⟩ := of_mem_chosen_valid hslash hc
    rw [hsource] at hfile
    exact textFault?_stagedFiles hicon (fileName_of_isFile hicon hfile).2 hstaging hp hshort

/-- The image sets of usable icons can be written unless something is too long. -/
theorem writable_of_mem_chosen {d e : Disk} (hgrows : d.Grows e) (hslash : ∀ raw ∈ l, '/' ∉ raw)
    (hnames : ∀ raw ∈ (Image.validate d roots l).valid, hasLongName raw = false)
    (hpaths : ∀ p ∈ stagedPaths e roots output (Image.validate d roots l).valid,
      Disk.textFault? p = none) {c : Identifier × Path}
    (hc : c ∈ chosen roots (Image.validate d roots l).valid) :
    Writable e (stagingPath e roots output (Image.validate d roots l).valid) c := by
  obtain ⟨raw, hraw, hparse, hicon, hfile, root, hsource⟩ := of_mem_chosen_valid hslash hc
  obtain ⟨data, hdata⟩ := Disk.exists_readFile_of_isFile hfile
  rw [hsource] at hfile
  exact ⟨⟨data, hgrows.readFile hdata⟩, (isTooLong_imagesetName hparse).trans (hnames raw hraw),
    (fileName_of_isFile hicon hfile).1, fun p hp =>
      hpaths p (List.mem_cons_of_mem _ (List.mem_flatMap.mpr ⟨c, hc, hp⟩))⟩

/-- A generation of usable icons succeeds unless something hinders it. -/
theorem exists_generate_ok (hhome : w.disk.HasHome) (hslash : ∀ raw ∈ l, '/' ∉ raw)
    (h : ¬Hindered w.disk roots output (Image.validate w.disk roots l).valid) :
    ∃ g w', generate (Image.validate w.disk roots l).valid roots output w = .ok g w' := by
  have hgrows := Disk.grows_makeFolders w.disk output
  have hopened : (w.disk.makeFolders output).2 = none := by
    cases hfault : (w.disk.makeFolders output).2 with
    | none =>
        rfl
    | some fault =>
        exact absurd (.output hfault) h
  obtain ⟨hnul, folder, hleads⟩ := Disk.leads_of_makeFolders hhome hopened
  have hthere := hhome.of_grows hgrows
  have hpaths : ∀ p ∈ stagedPaths (w.disk.makeFolders output).1 roots output
      (Image.validate w.disk roots l).valid, Disk.textFault? p = none := fun p hp =>
    textFault?_stagedPaths hthere hnul hslash hp (Bool.eq_false_iff.mpr fun hlong =>
      h (.path hp hlong))
  have hshort := Bool.eq_false_iff.mpr fun hlong => h (.staging hlong)
  have hicons : ∀ raw ∈ (Image.validate w.disk roots l).valid, '/' ∉ raw := fun raw hraw =>
    hslash raw (Image.mem_valid_iff.mp hraw).1
  obtain ⟨assembled, v, hassemble⟩ := @exists_assemble_ok roots _ output folder
    { w with disk := (w.disk.makeFolders output).1 } hicons (hthere.leads_absolute hleads) hshort
    (hpaths _ List.mem_cons_self) fun c hc => writable_of_mem_chosen hgrows hslash
      (fun raw hraw => Bool.eq_false_iff.mpr fun hlong => h (.name hraw hlong))
      hpaths hc
  obtain ⟨folder, name, es, rfl, hassembled⟩ := assembled_of_ok hassemble
  rcases hassembled.finish_cases hthere.isName with ⟨-, u, hfinish, -⟩ | ⟨hblocked, -⟩
  · have hmake : Run.makeFolders (.creatingOutput output) output w =
        .ok () { w with disk := (w.disk.makeFolders output).1 } :=
      makeFolders_eq_ok_iff.mpr ⟨hopened, rfl⟩
    refine ⟨⟨output.child directoryName, es⟩, u, ?_⟩
    rw [generate_eq_assemble, bind_of_ok hmake, bind_of_ok hassemble]
    exact hfinish
  · rw [hassembled.stage.folder_eq, Disk.target_congr hgrows.working] at hblocked
    exact absurd (.swap hblocked) h

/-- The names and the paths of the image sets of a generation that succeeds are not too long. -/
theorem fits_of_generate_ok {g : Generated} (hicons : ∀ raw ∈ icons, '/' ∉ raw)
    (h : generate icons roots output w = .ok g w') {c : Identifier × Path}
    (hc : c ∈ chosen roots icons) :
    Disk.isTooLong (imagesetName c.1.assetName) = false ∧
      ∀ p ∈ stagedFiles (stagingPath (w.disk.makeFolders output).1 roots output icons) c.1,
        Disk.isPathTooLong p = false := by
  have hfollowed := followed_of_generate_ok h
  obtain ⟨items, -, hitems, rfl, -⟩ := generate_ok hicons h
  obtain ⟨x, hx, hitem⟩ := exists_item_of_mem hitems hc
  obtain ⟨hcontents, himage⟩ := hfollowed _ (List.mem_map_of_mem hx)
  have hfilename := hitem.filename
  rw [fileName?_of_mem_mapped hicons (mem_firstsBy hc)] at hfilename
  have hname : Image.fileName c.1 = x.filename := Option.some_inj.mp hfilename
  rw [stagedFiles, hname, ← hitem.assetName]
  refine ⟨hitem.short, fun p hp => ?_⟩
  rcases List.mem_pair.mp hp with rfl | rfl
  · exact Disk.isPathTooLong_of_textFault? himage
  · exact Disk.isPathTooLong_of_textFault? hcontents

/-- A generation that succeeds has not been hindered. -/
theorem not_hindered_of_generate_ok {g : Generated}
    (hworking : ∀ name ∈ w.disk.working, Path.IsName name) (hicons : ∀ raw ∈ icons, '/' ∉ raw)
    (hpaths : ∀ raw ∈ icons, Image.pathOf? roots raw ≠ none)
    (h : generate icons roots output w = .ok g w') : ¬Hindered w.disk roots output icons := by
  have hsame := (Disk.grows_makeFolders w.disk output).working
  rcases generate_cases icons roots output w with
    ⟨f, u, hfail, -⟩ | ⟨hopened, folder, name, es, v, hassembled, hrest⟩
  · rw [h] at hfail
    cases hfail
  rcases hassembled.finish_cases (by rwa [hsame]) with ⟨hfree, -⟩ | ⟨-, f, u, hfinish, -⟩
  · intro hhindered
    cases hhindered with
    | output hfault =>
        rw [hopened] at hfault
        cases hfault
    | @name raw hraw hlong =>
        obtain ⟨path, hpath⟩ := Option.ne_none_iff_exists'.mp (hpaths raw hraw)
        obtain ⟨icon, hparse, hsource⟩ := Option.bind_eq_some_iff.mp hpath
        obtain ⟨c, hc, hname⟩ := @exists_mem_firstsBy _
          (fun c : Identifier × Path => c.1.assetName) _ _ (mem_mapped_of_path hraw hparse hsource)
        have hshort := (fits_of_generate_ok hicons h hc).1
        rw [hname, isTooLong_imagesetName hparse, hlong] at hshort
        cases hshort
    | staging hlong =>
        have hshort := hassembled.stage.short
        rw [hassembled.name_eq, hlong] at hshort
        cases hshort
    | @path p hp hlong =>
        have hshort : Disk.isPathTooLong p = false := by
          rcases List.mem_cons.mp hp with rfl | hp
          · have htext := hassembled.text
            rw [hassembled.name_eq] at htext
            exact Disk.isPathTooLong_of_textFault? htext
          · obtain ⟨c, hc, hp⟩ := List.mem_flatMap.mp hp
            exact (fits_of_generate_ok hicons h hc).2 p hp
        rw [hlong] at hshort
        cases hshort
    | swap hblocked =>
        rw [hassembled.stage.folder_eq, Disk.target_congr hsame] at hfree
        exact hfree hblocked
  · rw [h, hfinish] at hrest
    cases hrest

/-- No image of an icon without slashes lacks a name. -/
theorem generate_failsWith_named (roots : Roots) (output : Path)
    (hicons : ∀ raw ∈ icons, '/' ∉ raw) :
    FailsWith (fun f => ∀ p, f.cause ≠ .namelessSource p) (generate icons roots output) := by
  have hdisk : ∀ (s : Step) (fault : Disk.Fault) (p : Path),
      (fault.during s).cause ≠ .namelessSource p := fun _ _ _ => nofun
  have hstaging : FailsWith (fun f => ∀ p, f.cause ≠ .namelessSource p)
      (makeStaging roots output icons) := by
    intro v f v' h
    obtain ⟨⟨fault, staging, rfl⟩, -⟩ := makeStaging_eq_error h
    exact fun _ => nofun
  have hnames : ∀ c ∈ mapped roots icons, c.2.fileName? = none → ∀ p,
      Cause.namelessSource c.2 ≠ .namelessSource p := by
    intro c hc hnone
    rw [fileName?_of_mem_mapped hicons hc] at hnone
    cases hnone
  refine (failsWith_makeFolders (hdisk _)).bind fun _ => hstaging.bind fun staging => ?_
  refine (@writeAll_failsWith roots icons output staging _ _ (fun s _ => hdisk s)
    hnames).onFailure.bind fun es => ?_
  exact (swapIntoPlace_failsWith (fun s _ => hdisk s) staging).bind fun _ =>
    (failsWith_report _).bind fun _ => failsWith_pure _

/-- What can be seen before a generation starts: the output directory cannot be made, the name of an
image set is too long, or a former catalog that is no directory is beside the catalog. -/
def Foreseen (d : Disk) (output : Path) (icons : List Text) : Prop :=
  (d.makeFolders output).2 ≠ none ∨ (∃ raw ∈ icons, hasLongName raw = true) ∨
    d.hasObject (output.child directoryName) = true ∧
      d.hasObject (previousPath (output.child directoryName)) = true ∧
        d.isFolder (previousPath (output.child directoryName)) = false

instance (d : Disk) (output : Path) (icons : List Text) : Decidable (Foreseen d output icons) :=
  inferInstanceAs (Decidable (_ ∨ _ ∨ _))

/-- A generation of usable icons fails, although nothing of this can be seen. -/
def FailsUnforeseen (d : Disk) (roots : Roots) (output : Path) (l : List Text) : Prop :=
  (∃ f w', generate (Image.validate d roots l).valid roots output (.ofDisk d) = .error f w') ∧
    ¬Foreseen d output (Image.validate d roots l).valid

theorem failsUnforeseen_of_failsWhere {d : Disk}
    (hfails : failsWhere (generate (Image.validate d roots l).valid roots output) (.ofDisk d)
      (fun _ _ => true) = true)
    (hforeseen : ¬Foreseen d output (Image.validate d roots l).valid) :
    FailsUnforeseen d roots output l := by
  obtain ⟨f, w', h, -⟩ := exists_error_of_failsWhere hfails
  exact ⟨⟨f, w', h⟩, hforeseen⟩

/-- An absolute path of 4041 bytes, of which a staging directory leaves too little room. -/
def remoteOutput : Path := ⟨Lookup.distantOutput.text ++ "s".toList⟩

end Catalog
end IconAssets
