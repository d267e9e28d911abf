import IconAssets.Proofs.Catalog.Passing

/-!
# Staging directories that stay behind

Between two generations there is no staging directory in the output directory that was not there
before, unless a generation was blocked in its swap: then the catalog that it has put together stays
behind, and with each further attempt there is one more.  A directory with such a name may also be
made because the output path leads through it.

* `MadeOnTheWay`, `LeavesStaged`: where such a directory comes from;
* `found_generate_iff`: one generation;
* `found_generateEach_iff`: a row of generations.
-/

namespace IconAssets
namespace Catalog

open Run

variable {icons : List Text} {roots : Roots} {output : Path} {w : World} {name : Text}

/-- A directory is new in the output directory because the output path leads through it. -/
structure MadeOnTheWay (output : Path) (w : World) (name : Text) : Prop where
  before : w.disk.found (w.disk.target output ++ [name]) = none
  made : (w.disk.makeFolders output).1.found (w.disk.target output ++ [name]) ≠ none

/-- A generation has put its catalog together under a name, something stands in the way of the swap,
and the generation fails there. -/
structure LeavesStaged (icons : List Text) (roots : Roots) (output : Path) (w : World)
    (name : Text) : Prop where
  name_eq : name = freshName (namesInUse (w.disk.makeFolders output).1 roots output icons)
  blocked : Blocked (w.disk.makeFolders output).1 output (w.disk.target output)
  fails : ∃ f w', generate icons roots output w = .error f w' ∧ InSwap output f

theorem working_generate (hworking : ∀ name ∈ w.disk.working, Path.IsName name) :
    (last (generate icons roots output w)).disk.working = w.disk.working := by
  have hopened := (Disk.grows_makeFolders w.disk output).working
  rcases generate_outcome icons roots output hworking with ⟨f, u, hrun, -, hsame, -⟩ |
    ⟨folder, fresh, es, v, hassembled, ⟨-, u, hrun, hexchanged⟩ | ⟨-, f, u, hrun, -, hkeeps⟩⟩
  · rw [hrun, last_error, hsame]
  · rw [hrun, last_ok, hexchanged.working]
    exact hassembled.agree.right.trans hopened
  · rw [hrun, last_error, hkeeps.1]
    exact hassembled.agree.right.trans hopened

/-- After a generation, a name is in the output directory that is none of the catalog if it is there
once the directory has been made, or if it is the one of the staging directory, which has been left
behind. -/
theorem found_generate_iff (hworking : ∀ name ∈ w.disk.working, Path.IsName name)
    (hdirectory : name ≠ directoryName) (hprevious : name ≠ previousName) :
    (last (generate icons roots output w)).disk.found (w.disk.target output ++ [name]) ≠ none ↔
      (w.disk.makeFolders output).1.found (w.disk.target output ++ [name]) ≠ none ∨
        LeavesStaged icons roots output w name := by
  have hopened := (Disk.grows_makeFolders w.disk output).working
  rcases generate_outcome icons roots output hworking with ⟨f, u, hrun, hswap, -, hfound⟩ |
    ⟨folder, fresh, es, v, hassembled, hends⟩
  · have hnone : ¬LeavesStaged icons roots output w name := by
      rintro ⟨-, -, g, u', hrun', hswap'⟩
      rw [hrun] at hrun'
      cases hrun'
      exact hswap hswap'
    rw [hrun, last_error, hfound, or_iff_left hnone]
  · have hfolder : folder = w.disk.target output := by
      rw [hassembled.stage.folder_eq, Disk.target_congr hopened]
    rw [← hfolder]
    -- Only the name of the staging directory is not as it was once the output directory was there.
    have helse : name ≠ fresh → v.disk.found (folder ++ [name]) =
        (w.disk.makeFolders output).1.found (folder ++ [name]) := fun hne =>
      hassembled.stage.found_elsewhere hassembled.agree (not_prefix_beside folder (Ne.symm hne))
    rcases hends with ⟨-, u, hrun, hexchanged⟩ | ⟨hblocked, f, u, hrun, hswap, hkeeps⟩
    · have hnone : ¬LeavesStaged icons roots output w name := by
        rintro ⟨-, -, g, u', hrun', -⟩
        rw [hrun] at hrun'
        cases hrun'
      rw [hrun, last_ok, or_iff_left hnone]
      by_cases hne : name = fresh
      · have hgone := hexchanged.gone []
        rw [List.append_nil] at hgone
        rw [hne, hgone, hassembled.stage.free]
      · rw [hexchanged.other _ ?_, helse hne]
        rintro ⟨other, hother, hbelow⟩
        refine not_prefix_beside folder ?_ hbelow
        rintro rfl
        simp [hne, hdirectory, hprevious] at hother
    · rw [hrun, last_error, hkeeps.2 name hdirectory hprevious]
      by_cases hne : name = fresh
      · have hthere : v.disk.found (folder ++ [name]) ≠ none := by
          rw [hne, hassembled.stage.found_staging hassembled.agree]
          simp
        have hleaves : LeavesStaged icons roots output w name := by
          refine ⟨hne.trans hassembled.name_eq, ?_, f, u, hrun, hswap⟩
          rwa [← hfolder]
        exact iff_of_true hthere (Or.inr hleaves)
      · have hnone : ¬LeavesStaged icons roots output w name := fun hleaves =>
          hne (hleaves.name_eq.trans hassembled.name_eq.symm)
        rw [helse hne, or_iff_left hnone]

theorem found_makeFolders_iff :
    (w.disk.makeFolders output).1.found (w.disk.target output ++ [name]) ≠ none ↔
      w.disk.found (w.disk.target output ++ [name]) ≠ none ∨ MadeOnTheWay output w name := by
  constructor
  · intro hmade
    by_cases hbefore : w.disk.found (w.disk.target output ++ [name]) = none
    · exact Or.inr ⟨hbefore, hmade⟩
    · exact Or.inl hbefore
  · rintro (hbefore | hmade)
    · rwa [(Disk.grows_makeFolders w.disk output).found _ hbefore]
    · exact hmade.made

/-- The splits of a list with a head are the one at the head and those behind it. -/
theorem exists_split_cons_iff {α : Type} (P : List α → α → Prop) {x : α} {xs : List α} :
    (∃ before y after, x :: xs = before ++ y :: after ∧ P before y) ↔
      P [] x ∨ ∃ before y after, xs = before ++ y :: after ∧ P (x :: before) y := by
  constructor
  · rintro ⟨before, y, after, heq, h⟩
    cases before with
    | nil =>
        cases heq
        exact Or.inl h
    | cons z before =>
        cases heq
        exact Or.inr ⟨before, y, after, rfl, h⟩
  · rintro (h | ⟨before, y, after, rfl, h⟩)
    · exact ⟨[], x, xs, rfl, h⟩
    · exact ⟨x :: before, y, after, rfl, h⟩

/-- Generations into one output directory, one after the other, whether they succeed or fail. -/
def generateEach (output : Path) (calls : List (List Text × Roots)) (w : World) : World :=
  calls.foldl (fun w c => last (generate c.1 c.2 output w)) w

/-- **After a row of generations, a staging directory is there that was not there before exactly if
one of them has left it behind**, blocked in its swap by a former catalog that is no directory or by
an output path that passes the catalog, or if the output path itself asks for it. -/
theorem found_generateEach_iff {calls : List (List Text × Roots)}
    (hworking : ∀ name ∈ w.disk.working, Path.IsName name) (hname : stagingStem <+: name) :
    (generateEach output calls w).disk.found (w.disk.target output ++ [name]) ≠ none ↔
      w.disk.found (w.disk.target output ++ [name]) ≠ none ∨
        ∃ before c after, calls = before ++ c :: after ∧
          (MadeOnTheWay output (generateEach output before w) name ∨
            LeavesStaged c.1 c.2 output (generateEach output before w) name) := by
  have hdirectory : name ≠ directoryName := by
    rintro rfl
    exact absurd hname (by decide)
  have hprevious : name ≠ previousName := by
    rintro rfl
    exact absurd hname (by decide)
  -- One generation is the step; those behind it start from the world that it has left.
  induction calls generalizing w with
  | nil =>
      simp [generateEach]
  | cons c calls ih =>
      have hsame : (last (generate c.1 c.2 output w)).disk.working = w.disk.working :=
        working_generate hworking
      have hrest := @ih (last (generate c.1 c.2 output w)) (by rwa [hsame])
      rw [Disk.target_congr hsame, found_generate_iff hworking hdirectory hprevious,
        found_makeFolders_iff] at hrest
      refine hrest.trans ?_
      rw [exists_split_cons_iff (fun before c' =>
        MadeOnTheWay output (generateEach output before w) name ∨
          LeavesStaged c'.1 c'.2 output (generateEach output before w) name), or_assoc, or_assoc,
        or_assoc]
      rfl

/-- A disk with a catalog, the image of an icon, and a plain file at the place where the catalog is
set aside. -/
def staleDisk : Disk :=
  ⟨[(["i".toList], .folder), (["i".toList, "regular".toList], .folder),
    (["i".toList, "regular".toList, "house.svg".toList], .file [60] false),
    (["o".toList], .folder), (["o".toList, directoryName], .folder),
    (["o".toList, previousName], .file [111] false)], []⟩

theorem leavesStaged_of_stale {w : World} {name : Text} (data : Bytes)
    (hname : name = freshName (namesInUse (w.disk.makeFolders output).1 roots output icons))
    (hcatalog :
      (w.disk.makeFolders output).1.found (w.disk.target output ++ [directoryName]) ≠ none)
    (hprevious : (w.disk.makeFolders output).1.found (w.disk.target output ++ [previousName]) =
      some (.file data false))
    (hfails : failsWhere (generate icons roots output) w (fun f _ =>
      f.steps = [.removingStale (previousPath (output.child directoryName))]) = true) :
    LeavesStaged icons roots output w name := by
  obtain ⟨f, w', hrun, htest⟩ := exists_error_of_failsWhere hfails
  refine ⟨hname, ⟨hcatalog, Or.inl ⟨_, hprevious, by simp⟩⟩, f, w', hrun, ?_⟩
  exact ⟨_, by simp [swapSteps], of_decide_eq_true htest⟩

set_option maxRecDepth 4000 in
/-- Two attempts leave two staging directories behind. -/
theorem found_generateEach_iff_stale :
    (generateEach ⟨"o".toList⟩ [(["ph.house".toList], ⟨some ⟨"i".toList⟩, none⟩),
        (["ph.house".toList], ⟨some ⟨"i".toList⟩, none⟩)] (.ofDisk staleDisk)).disk.found
          ["o".toList, stagingName 0] ≠ none ∧
      (generateEach ⟨"o".toList⟩ [(["ph.house".toList], ⟨some ⟨"i".toList⟩, none⟩),
        (["ph.house".toList], ⟨some ⟨"i".toList⟩, none⟩)] (.ofDisk staleDisk)).disk.found
          ["o".toList, stagingName 1] ≠ none := by
  have hworking : ∀ name ∈ (World.ofDisk staleDisk).disk.working, Path.IsName name := by
    intro name hname
    cases hname
  have htarget : (World.ofDisk staleDisk).disk.target ⟨"o".toList⟩ = ["o".toList] := by
    decide +kernel
  have hleft := fun n (hname : stagingStem <+: stagingName n) =>
    @found_generateEach_iff ⟨"o".toList⟩ (.ofDisk staleDisk) (stagingName n)
      [(["ph.house".toList], ⟨some ⟨"i".toList⟩, none⟩),
        (["ph.house".toList], ⟨some ⟨"i".toList⟩, none⟩)] hworking hname
  rw [htarget] at hleft
  constructor
  · refine (hleft 0 (by decide)).mpr (Or.inr ⟨[], _, _, rfl, Or.inr ?_⟩)
    exact leavesStaged_of_stale [111] (by decide +kernel) (by decide +kernel)
      (by decide +kernel) (by decide +kernel)
  · refine (hleft 1 (by decide)).mpr (Or.inr ⟨[_], _, [], rfl, Or.inr ?_⟩)
    exact leavesStaged_of_stale [111] (by decide +kernel) (by decide +kernel)
      (by decide +kernel) (by decide +kernel)

set_option maxRecDepth 4000 in
/-- A generation fails since a plain file is where the catalog is set aside, and leaves a staging
directory behind that was not there before. -/
theorem generate_leaves_staged :
    ∃ f w',
      generate ["ph.house".toList] ⟨some ⟨"i".toList⟩, none⟩ ⟨"o".toList⟩ (.ofDisk staleDisk) =
          .error f w' ∧
        staleDisk.found ["o".toList, stagingName 0] = none ∧
          w'.disk.found ["o".toList, stagingName 0] = some .folder := by
  have hrun : failsWhere (generate ["ph.house".toList] ⟨some ⟨"i".toList⟩, none⟩ ⟨"o".toList⟩)
      (.ofDisk staleDisk)
      (fun _ w' => w'.disk.found ["o".toList, stagingName 0] = some .folder) = true := by
    decide +kernel
  obtain ⟨f, w', h, htest⟩ := exists_error_of_failsWhere hrun
  exact ⟨f, w', h, by decide +kernel, of_decide_eq_true htest⟩

end Catalog
end IconAssets
