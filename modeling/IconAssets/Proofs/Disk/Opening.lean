import IconAssets.Proofs.Disk.Clear
import IconAssets.Proofs.Path.Length

/-!
# Folders that can be opened

A folder that has been made with its parents is a folder that its path leads to, and so does the
absolute path, as long as the working folder is where its names say.

* `HasHome`: the working folder is there;
* `leads_absolute`: absolute paths lead where the paths lead;
* `leads_of_makeFolders`: what making folders that succeeds leaves behind;
* `makeFolders_child_ok`, `exists_writeFile_child_ok`: what can be made in a folder that is there.
-/

namespace IconAssets
namespace Disk

/-- The working folder is there, and each of the folders on the way to it has a name that can be
given. -/
structure HasHome (d : Disk) : Prop where
  isName : ∀ name ∈ d.working, Path.IsName name
  short : ∀ name ∈ d.working, isTooLong name = false
  nul_not_mem : ∀ name ∈ d.working, '\x00' ∉ name
  found : d.found d.working = some .folder

variable {d e : Disk} {p : Path} {folder : Place}

theorem HasHome.of_grows (h : d.HasHome) (hgrows : d.Grows e) : e.HasHome := by
  constructor
  · rw [hgrows.working]
    exact h.isName
  · rw [hgrows.working]
    exact h.short
  · rw [hgrows.working]
    exact h.nul_not_mem
  · rw [hgrows.working, hgrows.found _ (by simp [h.found]), h.found]

theorem travel_names {names : List Text} (h : ∀ name ∈ names, Path.IsName name) (here : Place) :
    travel here names = here ++ names := by
  induction names generalizing here with
  | nil =>
      simp
  | cons name names ih =>
      have hname := h name List.mem_cons_self
      have hturn : turn here name = here ++ [name] := by simp [turn, hname.not_idle, hname.not_up]
      change travel (turn here name) names = _
      rw [hturn, ih (fun n hn => h n (List.mem_cons_of_mem _ hn)), List.append_assoc]
      rfl

/-- All names on the way to a folder that is there can be walked along. -/
theorem walk_names {here : Place} {names : List Text} (hnames : ∀ name ∈ names, Path.IsName name)
    (hshort : ∀ name ∈ names, isTooLong name = false)
    (hfound : d.found (here ++ names) = some .folder) :
    d.walk here names = .ok (here ++ names) := by
  induction names generalizing here with
  | nil =>
      rw [List.append_nil, walk]
  | cons name names ih =>
      have hname := hnames name List.mem_cons_self
      have hturn : turn here name = here ++ [name] := by simp [turn, hname.not_idle, hname.not_up]
      have hthere : d.found (here ++ name :: names) ≠ none := by simp [hfound]
      have hhere : d.found here = some .folder :=
        found_above (List.prefix_append _ _) (by simp) hthere
      have hassoc : here ++ name :: names = here ++ [name] ++ names := by simp
      rw [hassoc] at hfound hthere ⊢
      have hnext : d.found (here ++ [name]) ≠ none := fun hnone =>
        hthere (found_below (List.prefix_append _ _) hnone)
      rw [walk_cons_eq_ok_iff, hturn]
      constructor
      · exact (step_name_eq_ok_iff hname).mpr
          ⟨hhere, rfl, hshort name List.mem_cons_self, hnext⟩
      · exact ih (fun n hn => hnames n (List.mem_cons_of_mem _ hn))
          (fun n hn => hshort n (List.mem_cons_of_mem _ hn)) hfound

theorem HasHome.moves_working (h : d.HasHome) :
    Path.moves ⟨'/' :: Text.glue '/' d.working⟩ = d.working := by
  rw [Path.moves, Text.pieces_sep_cons, Path.filter_moves_cons_idle Path.isIdle_nil,
    Path.filter_pieces_glue fun name hname => (h.isName name hname).slash_not_mem]
  exact List.filter_eq_self.mpr fun name hname => by simp [(h.isName name hname).not_idle]

/-- Paths start at a folder. -/
theorem HasHome.found_start (h : d.HasHome) (p : Path) : d.found (d.start p) = some .folder := by
  cases hp : p.isAbsolute with
  | true =>
      rw [start, hp]
      exact found_nil d
  | false =>
      rw [← (moves_absolute (d := d) hp).2.2, h.moves_working, travel_names h.isName,
        List.nil_append]
      exact h.found

/-- The absolute path leads where a path leads. -/
theorem HasHome.leads_absolute (hhome : d.HasHome) (h : d.Leads p folder) :
    d.Leads (d.absolute p) folder := by
  cases hp : p.isAbsolute with
  | true =>
      rwa [absolute, Path.join, if_pos hp]
  | false =>
      obtain ⟨hstart, hmoves, hfront⟩ := moves_absolute (d := d) hp
      have hworking : d.walk [] d.working = .ok d.working :=
        walk_names hhome.isName hhome.short hhome.found
      rw [hhome.moves_working, ← eq_travel_of_walk hworking] at hfront
      refine ⟨by rw [hstart]; exact found_nil d, ?_, h.found⟩
      rw [hstart, hmoves, hhome.moves_working, walk_append_eq_ok_iff]
      exact ⟨d.working, hworking, by rw [hfront]; exact h.walk⟩

/-- A path that names a folder leads to it. -/
theorem leads_of_isFolder (h : d.isFolder p = true) :
    textFault? p = none ∧ ∃ folder, d.Leads p folder := by
  rw [isFolder_iff] at h
  unfold foundAt at h
  split at h
  · cases h
  · next q hq =>
    exact ⟨textFault?_of_resolve hq, q, leads_iff_walk.mpr ⟨(found_start_of_resolve hq).1, h⟩⟩

/-- Behind a folder, slashes lead nowhere else. -/
theorem walk_of_empty {pieces : List Text} (h : ∀ piece ∈ pieces, piece = [])
    (hfolder : d.found folder = some .folder) : d.walk folder pieces = .ok folder := by
  induction pieces with
  | nil =>
      rfl
  | cons piece pieces ih =>
      obtain rfl := h piece List.mem_cons_self
      have hturn : turn folder [] = folder := rfl
      rw [walk_cons_eq_ok_iff, hturn]
      exact ⟨step_eq_ok_iff.mpr ⟨hfolder, rfl, .inl rfl⟩,
        ih fun q hq => h q (List.mem_cons_of_mem _ hq)⟩

/-- A folder that has been made is what its path leads to. -/
theorem leads_of_makeFolder (h : d.makeFolder p = .ok e) :
    textFault? p = none ∧ ∃ folder, e.Leads p folder := by
  have hgrows := grows_makeFolder h
  unfold makeFolder at h
  split at h
  · cases h
  · cases h
  · next folder name slash hspot =>
    split at h
    · cases h
    · next hlong =>
      split at h
      · cases h
      · next hnone =>
        obtain ⟨htext, front, slashes, hpieces, hslashes, -, hwalk, hname⟩ :=
          pieces_of_locate hspot
        have hfolder := (locate_eq_ok hspot).1
        have hthere : e.found (folder ++ [name]) = some .folder := by
          rw [← Except.ok.inj h, found_put hfolder (found_eq_none_iff.mpr hnone), if_pos rfl]
          rfl
        have hturn : turn folder name = folder ++ [name] := by simp [turn, hname]
        have hstart := found_start_of_walk hwalk hfolder
        refine ⟨htext, folder ++ [name], leads_iff_walk.mpr ⟨?_, hthere⟩⟩
        rw [start_congr hgrows.working, hpieces, walk_append_eq_ok_iff]
        refine ⟨folder, walk_of_agree hwalk (by simp [hstart]) fun r _ => hgrows.found r, ?_⟩
        rw [walk_cons_eq_ok_iff, hturn]
        refine ⟨step_eq_ok_iff.mpr ⟨?_, hturn.symm, .inr (.inr ⟨by simpa using hlong, ?_⟩)⟩,
          walk_of_empty hslashes hthere⟩
        · rw [hgrows.found _ (by simp [hfolder]), hfolder]
        · simp [hthere]

theorem leads_of_makeFirst {parents : List Path} (h : (d.makeFirst (p :: parents)).2 = none) :
    textFault? p = none ∧ ∃ folder, (d.makeFirst (p :: parents)).1.Leads p folder := by
  have hfails : ∀ (d : Disk) (fault : Fault), (if d.isFolder p then none else some fault) = none →
      textFault? p = none ∧ ∃ folder, d.Leads p folder := by
    intro d fault hfault
    refine leads_of_isFolder ?_
    by_contra hnot
    rw [if_neg hnot] at hfault
    cases hfault
  unfold makeFirst at h ⊢
  cases hmake : d.makeFolder p with
  | ok e =>
      exact leads_of_makeFolder hmake
  | error fault =>
      rw [hmake] at h
      cases fault with
      | missing =>
          dsimp only at h ⊢
          cases hparents : d.makeFirst parents with
          | mk e problem =>
              rw [hparents] at h
              cases problem with
              | some problem =>
                  cases h
              | none =>
                  dsimp only at h ⊢
                  cases hagain : e.makeFolder p with
                  | ok f =>
                      exact leads_of_makeFolder hagain
                  | error problem =>
                      rw [hagain] at h
                      exact hfails e problem h
      | _ =>
          exact hfails d _ h

/-- A path without parent stays where it starts. -/
theorem of_parent?_eq_none (h : p.parent? = none) : p.moves = [] ∧ '\x00' ∉ p.text := by
  have hsteps : Path.dropIdleEnd p.steps = [] := by
    unfold Path.parent? at h
    split at h
    · next hnil => exact hnil
    · cases h
  have hidle : ∀ step ∈ p.steps, Path.isIdle step = true := by
    rw [Path.dropIdleEnd_eq, List.rdropWhile_eq_nil_iff] at hsteps
    exact hsteps
  constructor
  · rw [Path.moves_eq_filter_steps]
    exact List.filter_eq_nil_iff.mpr fun step hstep => by simp [hidle step hstep]
  · rw [← Path.anchor_append_glue p]
    intro hmem
    rcases List.mem_append.mp hmem with hanchor | hglue
    · rcases p.anchor_cases with ⟨heq, -⟩ | ⟨heq, -⟩ | ⟨heq, -⟩ | ⟨heq, -⟩ <;>
        rw [heq] at hanchor <;> revert hanchor <;> decide
    · rcases Text.mem_glue hglue with heq | ⟨step, hstep, hin⟩
      · exact absurd heq (by decide)
      · have hstep := hidle step hstep
        simp only [Path.isIdle, Bool.or_eq_true, decide_eq_true_eq] at hstep
        rcases hstep with rfl | rfl <;> revert hin <;> decide

/-- A folder that has been made with its parents is what its path leads to. -/
theorem leads_of_makeFolders (hhome : d.HasHome) (h : (d.makeFolders p).2 = none) :
    '\x00' ∉ p.text ∧ ∃ folder, (d.makeFolders p).1.Leads p folder := by
  unfold makeFolders chain at h ⊢
  cases hparent : p.parent? with
  | none =>
      obtain ⟨hmoves, hnul⟩ := of_parent?_eq_none hparent
      have hstart := hhome.found_start p
      exact ⟨hnul, d.start p, hstart, by rw [hmoves]; rfl, hstart⟩
  | some parent =>
      rw [hparent] at h
      obtain ⟨htext, hleads⟩ := leads_of_makeFirst h
      exact ⟨(textFault?_eq_none_iff.mp htext).1, hleads⟩

theorem HasHome.nul_not_mem_absolute (h : d.HasHome) (hp : '\x00' ∉ p.text) :
    '\x00' ∉ (d.absolute p).text := by
  cases habsolute : p.isAbsolute with
  | true =>
      rwa [absolute, Path.join, if_pos habsolute]
  | false =>
      intro hmem
      rcases Path.mem_text_join habsolute hmem with hmem | hmem | hmem
      · rcases List.mem_cons.mp hmem with hslash | hmem
        · exact absurd hslash (by decide)
        · rcases Text.mem_glue hmem with hslash | ⟨name, hname, hin⟩
          · exact absurd hslash (by decide)
          · exact h.nul_not_mem name hname hin
      · exact absurd hmem (by decide)
      · exact hp hmem

/-- A path that ends in a name and has no NUL can be followed unless it is too long. -/
theorem textFault?_child {name : Text} (h : Path.IsName name) (hnul : '\x00' ∉ (p.child name).text)
    (hshort : isPathTooLong (p.child name) = false) : textFault? (p.child name) = none := by
  refine textFault?_eq_none_iff.mpr ⟨hnul, text_child_ne_nil p h, ?_⟩
  simpa [isPathTooLong] using hshort

/-- A missing folder in a folder that is there can be made. -/
theorem makeFolders_child_ok {name : Text} (h : Path.IsName name) (hleads : d.Leads p folder)
    (hnone : d.found (folder ++ [name]) = none) (htext : textFault? (p.child name) = none)
    (hshort : isTooLong name = false) : (d.makeFolders (p.child name)).2 = none := by
  obtain ⟨parent, hparent, -⟩ := Path.parent?_child p h
  have hmake := (makeFolder_child_eq_ok_iff h).mpr ⟨htext, hshort, folder, hleads, hnone, rfl⟩
  unfold makeFolders chain
  rw [hparent]
  dsimp only
  rw [makeFirst, hmake]

/-- A new file in a folder that is there can be written. -/
theorem exists_writeFile_child_ok {name : Text} (h : Path.IsName name) (hleads : d.Leads p folder)
    (hnone : d.found (folder ++ [name]) = none) (htext : textFault? (p.child name) = none)
    (hshort : isTooLong name = false) (data : Bytes) :
    ∃ e, d.writeFile (p.child name) data = .ok e :=
  ⟨_, (writeFile_child_eq_ok_iff h hleads hnone).mpr ⟨htext, hshort, rfl⟩⟩

end Disk
end IconAssets
