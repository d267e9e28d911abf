import IconAssets.Proofs.Catalog.Exchange
import IconAssets.Proofs.Catalog.Staged
import IconAssets.Proofs.Path.Length

/-!
# Swaps that are blocked

The output path may pass the catalog or the place where it is set aside.  Then it is closed as soon
as the swap has emptied this place, and the swap fails.  It fails also if a former catalog that has
been left aside is no directory.  In all other cases it succeeds; and if it fails, the staging
directory stays behind.

* `Blocked`: what stands in the way of a swap;
* `swapIntoPlace_of_not_blocked`: swaps that succeed;
* `swapIntoPlace_of_blocked`: swaps that fail;
* `textFault?_of_staging`: the paths of a swap can be followed if those in the staging directory
  can;
* `Assembled.beside`: a catalog that has been put together is ready to be swapped;
* `generate_outcome`: how a generation ends.
-/

namespace IconAssets
namespace Catalog

open Run

variable {w w' : World} {output base : Path} {folder : Place} {staged : Text}

theorem avoids_of_rename {d e : Disk} {p q : Path} {name new : Text} (hname : Path.IsName name)
    (hnew : Path.IsName new) (h : d.rename (p.child name) (q.child new) = .ok e) :
    d.Avoids (d.target q ++ [new] <+: ·) q := by
  obtain ⟨-, -, -, -, source, target, -, htarget, -, hfree, -⟩ :=
    (Disk.rename_child_eq_ok_iff hname hnew).mp h
  rw [here_eq_target htarget] at hfree
  exact fun r hr => not_prefix_of_mem_stops htarget hfree (Disk.mem_trail_iff.mp hr)

/-- When the catalog is set aside, it is moved to a free place that the output path does not
pass. -/
theorem setAside_eq_ok {d e : Disk}
    (h : d.rename (output.child directoryName) (previousPath (output.child directoryName)) =
      .ok e) :
    d.found (d.target output) = some .folder ∧
      d.found (d.target output ++ [directoryName]) ≠ none ∧
        d.found (d.target output ++ [previousName]) = none ∧
          d.Avoids (d.target output ++ [previousName] <+: ·) output ∧
            e = d.move (d.target output ++ [directoryName])
              (d.target output ++ [previousName]) := by
  obtain ⟨beside, hpath, habsolute, hmoves⟩ := exists_previousPath_eq output isName_directoryName
  rw [hpath] at h
  have hway := avoids_of_rename isName_directoryName isName_previousName h
  obtain ⟨-, -, -, -, source, target, hsource, htarget, hthere, hfree, rfl⟩ :=
    (Disk.rename_child_eq_ok_iff isName_directoryName isName_previousName).mp h
  obtain rfl := (htarget.of_moves habsolute.symm hmoves.symm).unique hsource
  rw [← here_eq_target htarget] at hway
  rw [← here_eq_target hsource]
  exact ⟨hsource.found, hthere, hfree, hway.of_moves habsolute.symm hmoves.symm, rfl⟩

/-- A catalog is replaced only if the output path passes neither of its two places. -/
theorem avoids_of_replaceCatalog {u : Unit} (hname : Path.IsName staged)
    (h : replaceCatalog (base.child staged) (output.child directoryName) w = .ok u w') :
    w.disk.Avoids (w.disk.target output ++ [directoryName] <+: ·) output ∧
      w.disk.Avoids (w.disk.target output ++ [previousName] <+: ·) output := by
  unfold replaceCatalog at h
  simp only [bind_eq_ok_iff, onFailure_eq_ok_iff, change_eq_ok_iff] at h
  obtain ⟨_, _, ⟨d, hd, rfl⟩, _, _, ⟨e, he, rfl⟩, -⟩ := h
  obtain ⟨-, -, -, hprevious, rfl⟩ := setAside_eq_ok hd
  have hsame : w.disk.working = (w.withDisk (w.disk.move (w.disk.target output ++ [directoryName])
      (w.disk.target output ++ [previousName]))).disk.working := by
    rw [World.working_withDisk]
    rfl
  have hcatalog := avoids_of_rename hname isName_directoryName he
  rw [← Disk.target_congr hsame] at hcatalog
  exact ⟨hcatalog.of_working hsame, hprevious⟩

/-- What stands in the way of a swap: there is a catalog, and beside it a former one that is no
directory, or the output path passes one of the two. -/
structure Blocked (d : Disk) (output : Path) (folder : Place) : Prop where
  catalog : d.found (folder ++ [directoryName]) ≠ none
  inTheWay : (∃ x, d.found (folder ++ [previousName]) = some x ∧ x ≠ .folder) ∨
    folder ++ [directoryName] ∈ d.trail output ∨ folder ++ [previousName] ∈ d.trail output

/-- What is beside the catalog after a swap: what was there, if there was no catalog before, or else
the former catalog, unless it could be removed. -/
def leftAside (d : Disk) (folder q : Place) : Option Object :=
  match d.found (folder ++ [directoryName]) with
  | none => d.found (folder ++ [previousName] ++ q)
  | some .folder => none
  | some _ => d.found (folder ++ [directoryName] ++ q)

/-- A path that does not pass some names in its folder avoids what is at and below them, and so does
the absolute path. -/
theorem avoids_among {d : Disk} {names : List Text} (hleads : d.Leads output folder)
    (hworking : ∀ name ∈ d.working, Path.IsName name)
    (h : ∀ name ∈ names, folder ++ [name] ∉ d.trail output) :
    d.Avoids (Among folder names) (d.absolute output) := by
  rintro r hr ⟨name, hname, hbelow⟩
  refine (Disk.avoids_of_not_mem_trail (h name hname) ?_).absolute hworking r hr hbelow
  rw [← here_eq_target hleads]
  exact Disk.not_child_prefix folder name

/-- If nothing stands in the way, a catalog can be replaced. -/
theorem Beside.ready {d : Disk} (h : Beside d output (d.absolute output) folder staged)
    (haway : folder ++ [staged] ∉ d.trail output)
    (hworking : ∀ name ∈ d.working, Path.IsName name)
    (hcatalog : d.found (folder ++ [directoryName]) ≠ none) (hblocked : ¬Blocked d output folder) :
    Ready d output (d.absolute output) folder staged ∧
      (d.found (folder ++ [previousName]) = none ∨
        d.found (folder ++ [previousName]) = some .folder) := by
  have havoids : d.Avoids (Among folder [staged, directoryName, previousName])
      (d.absolute output) := by
    refine avoids_among h.leadsOutput hworking ?_
    simp only [List.mem_cons, List.not_mem_nil, or_false]
    rintro name (rfl | rfl | rfl)
    · exact haway
    · exact fun hpass => hblocked ⟨hcatalog, Or.inr (Or.inl hpass)⟩
    · exact fun hpass => hblocked ⟨hcatalog, Or.inr (Or.inr hpass)⟩
  refine ⟨⟨h, havoids.of_absolute, havoids⟩, ?_⟩
  cases hx : d.found (folder ++ [previousName]) with
  | none =>
      exact Or.inl rfl
  | some x =>
      refine Or.inr (congrArg some ?_)
      by_contra hfolder
      exact hblocked ⟨hcatalog, Or.inl ⟨x, hx, hfolder⟩⟩

/-- A swap that is not blocked succeeds. -/
theorem swapIntoPlace_of_not_blocked
    (h : Beside w.disk output (w.disk.absolute output) folder staged)
    (haway : folder ++ [staged] ∉ w.disk.trail output)
    (hworking : ∀ name ∈ w.disk.working, Path.IsName name)
    (hstaged : w.disk.found (folder ++ [staged]) ≠ none)
    (hblocked : ¬Blocked w.disk output folder) :
    ∃ v, swapIntoPlace ((w.disk.absolute output).child staged) (output.child directoryName) w =
        .ok () v ∧
      Exchanged w.disk v.disk folder staged (leftAside w.disk folder) := by
  unfold leftAside
  -- Without a catalog before, the ways need not be open: nothing is moved away.
  cases hcatalog : w.disk.found (folder ++ [directoryName]) with
  | none =>
      exact swapIntoPlace_new h hstaged hcatalog
  | some x =>
      have hthere : w.disk.found (folder ++ [directoryName]) ≠ none := by simp [hcatalog]
      obtain ⟨hready, hprevious⟩ := h.ready haway hworking hthere hblocked
      obtain ⟨v, hv, hexchanged⟩ := swapIntoPlace_replace hready hstaged hthere hprevious
      refine ⟨v, hv, ?_⟩
      rw [hcatalog] at hexchanged
      cases x with
      | folder =>
          simpa using hexchanged
      | file data runnable =>
          simpa using hexchanged
      | device x =>
          simpa using hexchanged

theorem putBack_idle {staging catalog previous : Path}
    (hback : ∀ d, w.disk.rename previous catalog ≠ .ok d)
    (hremove : ∀ d, w.disk.removeFolder staging ≠ .ok d) :
    (last (putBack staging catalog previous w)).disk = w.disk := by
  have hdiscard : ∀ events, (last (discard staging { w with events := events })).disk = w.disk := by
    intro events
    unfold discard
    rw [disk_bind]
    cases hremoved : w.disk.removeFolder staging with
    | ok d =>
        exact absurd hremoved (hremove d)
    | error fault =>
        rfl
  unfold putBack
  rw [disk_bind]
  cases hrename : w.disk.rename previous catalog with
  | ok d =>
      exact absurd hrename (hback d)
  | error fault =>
      exact hdiscard _

/-- In a folder, all is as before but the two places of the catalog. -/
def KeepsNames (d e : Disk) (folder : Place) : Prop :=
  e.working = d.working ∧ ∀ name, name ≠ directoryName → name ≠ previousName →
    e.found (folder ++ [name]) = d.found (folder ++ [name])

/-- If the output path passes a place of the catalog, a swap that fails leaves the staging directory
behind. -/
theorem keepsNames_of_pass {f : Failure} (h : Beside w.disk output base folder staged)
    (hbase : w.disk.trail output ⊆ w.disk.trail base)
    (hpass : folder ++ [directoryName] ∈ w.disk.trail output ∨
      folder ++ [previousName] ∈ w.disk.trail output)
    (herror : swapIntoPlace (base.child staged) (output.child directoryName) w = .error f w') :
    KeepsNames w.disk w'.disk folder := by
  have hfolder := here_eq_target h.leadsOutput
  rcases swapIntoPlace_error_cases herror with rfl | ⟨v, hv, hw'⟩
  · exact ⟨rfl, fun _ _ _ => rfl⟩
  · obtain ⟨beside, hpath, -, hbeside⟩ := h.exists_beside
    rw [hpath] at hv
    obtain ⟨hworking, helse⟩ := found_of_cleared hbeside.eq_travel hv
    rcases hw' with rfl | ⟨-, d, hd, rfl⟩
    · exact ⟨hworking, fun name _ hname => helse _ (not_prefix_beside folder hname.symm)⟩
    · obtain ⟨hfound, hthere, hfree, hprevious, rfl⟩ := setAside_eq_ok hd
      rw [Disk.target_congr hworking, ← hfolder] at hfound hthere hfree hprevious ⊢
      -- The catalog has been set aside, so it is the catalog itself that the path passes.
      have hcatalog : folder ++ [directoryName] ∈ w.disk.trail output := by
        rcases hpass with hpass | hpass
        · exact hpass
        · rw [← Disk.trail_congr hworking] at hpass
          exact absurd (List.prefix_refl _) (hprevious _ hpass)
      obtain ⟨u, hu⟩ : ∃ u, u = v.withDisk
          (v.disk.move (folder ++ [directoryName]) (folder ++ [previousName])) := ⟨_, rfl⟩
      rw [← hu]
      have hsame : u.disk.working = w.disk.working := by
        rw [hu, World.working_withDisk]
        exact hworking
      have hset := found_move_sibling hfound hthere hfree
      rw [← World.found_withDisk v, ← hu] at hset
      have hgone := hset directoryName []
      rw [if_neg (by decide), if_pos rfl, List.append_nil] at hgone
      -- So the catalog cannot be moved back, and the staging directory cannot be removed.
      have hback : ∀ e, u.disk.rename (beside.child previousName)
          (output.child directoryName) ≠ .ok e := by
        intro e hrename
        have hway := avoids_of_rename isName_previousName isName_directoryName hrename
        rw [Disk.target_congr hsame, ← hfolder] at hway
        rw [← Disk.trail_congr hsame] at hcatalog
        exact hway _ hcatalog (List.prefix_refl _)
      have hremove : ∀ e, u.disk.removeFolder (base.child staged) ≠ .ok e := by
        intro e hremoved
        obtain ⟨-, -, source, hsource, -⟩ :=
          (Disk.removeFolder_child_eq_ok_iff h.isName).mp hremoved
        have hpassed := hbase hcatalog
        rw [← Disk.trail_congr hsame] at hpassed
        exact Disk.found_of_mem_stops hsource.walk (by simp [hsource.start])
          (Disk.mem_trail_iff.mp hpassed) hgone
      rw [hpath, putBack_idle hback hremove]
      refine ⟨hsame, fun name hdirectory haside => ?_⟩
      have hstays := hset name []
      rw [if_neg haside, if_neg hdirectory, List.append_nil] at hstays
      rw [hstays, helse _ (not_prefix_beside folder haside.symm)]

/-- A swap that is blocked fails and leaves the staging directory behind. -/
theorem swapIntoPlace_of_blocked (h : Beside w.disk output base folder staged)
    (hbase : w.disk.trail output ⊆ w.disk.trail base) (hblocked : Blocked w.disk output folder) :
    ∃ f v, swapIntoPlace (base.child staged) (output.child directoryName) w = .error f v ∧
      KeepsNames w.disk v.disk folder := by
  rcases hblocked.inTheWay with ⟨x, hx, hfolder⟩ | hpass
  · exact ⟨_, w, swapIntoPlace_stale h hblocked.catalog hx hfolder, rfl, fun _ _ _ => rfl⟩
  · cases hswap : swapIntoPlace (base.child staged) (output.child directoryName) w with
    | error f v =>
        exact ⟨f, v, rfl, keepsNames_of_pass h hbase hpass hswap⟩
    | ok u v =>
        obtain ⟨v₀, hworking, hreplace⟩ : ∃ v₀ : World, v₀.disk.working = w.disk.working ∧
            replaceCatalog (base.child staged) (output.child directoryName) v₀ = .ok u v := by
          rw [swapIntoPlace_apply, h.hasObject_catalog,
            if_pos (Option.isSome_iff_ne_none.mpr hblocked.catalog)] at hswap
          split at hswap
          · obtain ⟨beside, hpath, -, hbeside⟩ := h.exists_beside
            obtain ⟨_, v₀, hstale, hreplace⟩ := bind_eq_ok_iff.mp hswap
            obtain ⟨c, hc, rfl⟩ := change_eq_ok_iff.mp hstale
            rw [hpath] at hc
            exact ⟨_, (found_of_cleared hbeside.eq_travel (Or.inr ⟨c, hc, rfl⟩)).1, hreplace⟩
          · exact ⟨w, rfl, hswap⟩
        obtain ⟨hcatalog, hprevious⟩ := avoids_of_replaceCatalog h.isName hreplace
        rw [Disk.target_congr hworking, ← here_eq_target h.leadsOutput] at hcatalog hprevious
        rw [← Disk.trail_congr hworking] at hpass
        rcases hpass with hpass | hpass
        · exact absurd (List.prefix_refl _) (hcatalog _ hpass)
        · exact absurd (List.prefix_refl _) (hprevious _ hpass)

/-- The paths of a swap are no longer than those in the staging directory. -/
theorem textFault?_of_staging {d : Disk} {n : Nat}
    (h : Disk.textFault? (((d.absolute output).child (stagingName n)).child contentsName) = none) :
    Disk.textFault? (output.child directoryName) = none ∧
      Disk.textFault? (previousPath (output.child directoryName)) = none := by
  obtain ⟨beside, hparent, -⟩ := Path.parent?_child output isName_directoryName
  obtain ⟨front, hfront, -⟩ := Disk.slashed_absolute d output
  have hstaged : (((d.absolute output).child (stagingName n)).child contentsName).text =
      front ++ output.slashed ++ (stagingName n ++ '/' :: contentsName) := by
    rw [Path.text_child _ isName_contentsName, Path.slashed_child _ (isName_stagingName n), hfront]
    simp
  have hplaced := Path.text_child output isName_directoryName
  rw [previousPath_eq isName_directoryName hparent]
  rw [Disk.textFault?_eq_none_iff, hstaged] at h
  rw [Disk.textFault?_eq_none_iff, Disk.textFault?_eq_none_iff]
  obtain ⟨hnul, -, hlength⟩ := h
  have hcatalog : '\x00' ∉ (output.child directoryName).text := by
    have hdirectory : '\x00' ∉ directoryName := by decide
    rw [hplaced]
    simp only [List.mem_append, not_or] at hnul ⊢
    exact ⟨hnul.1.2, hdirectory⟩
  have hbound : Text.byteLength output.slashed + 36 ≤ Disk.maxPathLength := by
    have hname := le_byteLength_stagingName n
    have hdocument : Text.byteLength ('/' :: contentsName) = 14 := by decide
    simp only [Text.byteLength_append, hdocument] at hlength
    omega
  have hdirectoryLength : Text.byteLength directoryName = 23 := by decide
  have hpreviousLength : Text.byteLength previousName = 33 := by decide
  have hcatalogLength : Text.byteLength (output.child directoryName).text =
      Text.byteLength output.slashed + 23 := by
    rw [hplaced, Text.byteLength_append, hdirectoryLength]
  have hbesideLength := Path.byteLength_parent?_child isName_directoryName hparent
  have hslashedLength := (Path.byteLength_slashed beside).2
  refine ⟨⟨hcatalog, Disk.text_child_ne_nil _ isName_directoryName, ?_⟩, ?_,
    Disk.text_child_ne_nil _ isName_previousName, ?_⟩
  · omega
  · intro hmem
    rcases Path.mem_text_join isName_previousName.isAbsolute_mk hmem with hmem | hmem | hmem
    · rcases Path.mem_text_parent? hparent hmem with hmem | hmem
      · exact hcatalog hmem
      · cases hmem
    · cases hmem
    · exact absurd hmem (by decide)
  · rw [Path.text_child _ isName_previousName, Text.byteLength_append]
    omega

namespace Assembled

variable {icons : List Text} {roots : Roots} {name : Text} {es : List Entry} {v : World}

theorem beside (h : Assembled icons roots output w folder name es v) :
    Beside v.disk output (v.disk.absolute output) folder name := by
  have hworking : v.disk.working = w.disk.working := h.agree.right
  have htext := h.text
  have hstage := h.stage
  have hleads := hstage.leads_absolute h.agree
  rw [h.name_eq] at htext
  obtain ⟨hcatalog, hprevious⟩ := textFault?_of_staging htext
  rw [← Disk.absolute_congr hworking] at hleads
  have hstaged := hstage.text
  rw [← Disk.absolute_congr hworking] at hstaged
  exact ⟨hstage.isName, hstage.ne_directory, hstage.ne_previous, hstage.short,
    hstage.leads_output h.agree, hleads, hstaged, hcatalog, hprevious⟩

theorem not_mem_trail (h : Assembled icons roots output w folder name es v) :
    folder ++ [name] ∉ v.disk.trail output := by
  have hworking : v.disk.working = w.disk.working := h.agree.right
  rw [Disk.trail_congr hworking]
  exact fun hpass => h.stage.avoids.of_absolute _ hpass (List.prefix_refl _)

/-- What stands in the way of the swap was there before the catalog has been put together. -/
theorem blocked_iff (h : Assembled icons roots output w folder name es v) :
    Blocked v.disk output folder ↔ Blocked w.disk output folder := by
  have hworking : v.disk.working = w.disk.working := h.agree.right
  have hsame : ∀ other, name ≠ other →
      v.disk.found (folder ++ [other]) = w.disk.found (folder ++ [other]) := fun other hne =>
    h.stage.found_elsewhere h.agree (not_prefix_beside folder hne)
  have hcatalog := hsame directoryName h.stage.ne_directory
  have hprevious := hsame previousName h.stage.ne_previous
  have htrail := Disk.trail_congr hworking output
  constructor
  · rintro ⟨hthere, hway⟩
    rw [hcatalog] at hthere
    rw [hprevious, htrail] at hway
    exact ⟨hthere, hway⟩
  · rintro ⟨hthere, hway⟩
    rw [← hcatalog] at hthere
    rw [← hprevious, ← htrail] at hway
    exact ⟨hthere, hway⟩

/-- A catalog that has been put together is swapped into place, unless something stands in the
way. -/
theorem finish_cases (h : Assembled icons roots output w folder name es v)
    (hworking : ∀ name ∈ w.disk.working, Path.IsName name) :
    (¬Blocked w.disk output folder ∧
      ∃ u, finish output ((w.disk.absolute output).child name) es v =
          .ok ⟨output.child directoryName, es⟩ u ∧
        Exchanged v.disk u.disk folder name (leftAside v.disk folder)) ∨
      (Blocked w.disk output folder ∧
        ∃ f u, finish output ((w.disk.absolute output).child name) es v = .error f u ∧
          InSwap output f ∧ KeepsNames v.disk u.disk folder) := by
  have hsame : v.disk.working = w.disk.working := h.agree.right
  have hbeside := h.beside
  rw [← h.blocked_iff, ← Disk.absolute_congr hsame]
  by_cases hblocked : Blocked v.disk output folder
  · obtain ⟨f, u, hswap, hkeeps⟩ := swapIntoPlace_of_blocked hbeside
      (Disk.trail_subset_absolute v.disk output) hblocked
    exact Or.inr ⟨hblocked, f, u, bind_eq_error_iff.mpr (Or.inl hswap),
      swapIntoPlace_failsWith (fun _ => inSwap_during) _ v f u hswap, hkeeps⟩
  · have hstaged : v.disk.found (folder ++ [name]) ≠ none := by
      rw [h.stage.found_staging h.agree]
      simp
    obtain ⟨u, hswap, hexchanged⟩ := swapIntoPlace_of_not_blocked hbeside h.not_mem_trail
      (by rwa [hsame]) hstaged hblocked
    obtain ⟨u', hfinish, hdisk⟩ := finish_of_swapIntoPlace hswap es
    exact Or.inl ⟨hblocked, u', hfinish, hdisk ▸ hexchanged⟩

end Assembled

/-- How a generation ends: it fails with nothing left behind but the output directory, or it puts its
catalog together and then succeeds, unless something stands in the way of the swap. -/
theorem generate_outcome (icons : List Text) (roots : Roots) (output : Path)
    (hworking : ∀ name ∈ w.disk.working, Path.IsName name) :
    (∃ f u, generate icons roots output w = .error f u ∧ ¬InSwap output f ∧
        u.disk.working = w.disk.working ∧ u.disk.found = (w.disk.makeFolders output).1.found) ∨
      ∃ folder name es v,
        Assembled icons roots output { w with disk := (w.disk.makeFolders output).1 } folder name
            es v ∧
          (¬Blocked (w.disk.makeFolders output).1 output folder ∧
              (∃ u, generate icons roots output w = .ok ⟨output.child directoryName, es⟩ u ∧
                Exchanged v.disk u.disk folder name (leftAside v.disk folder)) ∨
            Blocked (w.disk.makeFolders output).1 output folder ∧
              ∃ f u, generate icons roots output w = .error f u ∧ InSwap output f ∧
                KeepsNames v.disk u.disk folder) := by
  rcases generate_cases icons roots output w with
    hfail | ⟨-, folder, name, es, v, hassembled, hrest⟩
  · exact Or.inl hfail
  · refine Or.inr ⟨folder, name, es, v, hassembled, ?_⟩
    rw [hrest]
    exact hassembled.finish_cases (by rwa [(Disk.grows_makeFolders w.disk output).working])

end Catalog
end IconAssets
