import IconAssets.Proofs.Disk.Apart

/-!
# Changes at one place

## Disks that agree but for one place

Two disks may differ in what is found at one place.  Whatever is done by a path that does not pass
the place then gives the same result on both, and leaves two disks that still agree elsewhere.  This
is the case of disks that agree off some places where these are a single one.

* `AgreeBut`: disks that agree but for one place;
* `agreeBut_iff`, `Clear.clearOff`: the case of a single place;
* `AgreeBut.isFile`: a path that leads elsewhere, if the place holds no folder.
-/

namespace IconAssets
namespace Disk

/-- Two disks agree about all but one place; both have the working folder of a third one. -/
structure AgreeBut (base : Disk) (place : Place) (d e : Disk) : Prop where
  left : d.working = base.working
  right : e.working = base.working
  found : ∀ q, q ≠ place → d.found q = e.found q

theorem agreeBut_iff {base d e : Disk} {place : Place} :
    AgreeBut base place d e ↔ AgreeOff base (· = place) d e :=
  ⟨fun ⟨left, right, found⟩ => ⟨left, right, found⟩,
    fun ⟨left, right, found⟩ => ⟨left, right, found⟩⟩

/-- A path does not pass a place if its way avoids it. -/
theorem avoids_of_not_mem {base : Disk} {place : Place} {p : Path} (h : place ∉ base.trail p) :
    base.Avoids (· = place) p := by
  rintro r hr rfl
  exact h hr

theorem Clear.clearOff {base : Disk} {place : Place} {p : Path} (h : base.Clear place p) :
    base.ClearOff (· = place) p :=
  ⟨avoids_of_not_mem h.aside, h.target_append_ne⟩

namespace AgreeBut

variable {base d e : Disk} {place : Place} {p : Path}

theorem off (h : AgreeBut base place d e) : AgreeOff base (· = place) d e := agreeBut_iff.mp h

theorem symm (h : AgreeBut base place d e) : AgreeBut base place e d :=
  agreeBut_iff.mpr h.off.symm

theorem resolve (h : AgreeBut base place d e) (hp : place ∉ base.trail p) :
    d.resolve p = e.resolve p :=
  h.off.resolve (avoids_of_not_mem hp)

theorem readFile (h : AgreeBut base place d e) (hp : place ∉ base.trail p) :
    d.readFile p = e.readFile p :=
  h.off.readFile (avoids_of_not_mem hp)

/-- A path that names another place does not pass the place, as long as this holds no folder. -/
theorem not_mem_trail_of_resolve (h : AgreeBut base place d e)
    (hplace : d.found place ≠ some .folder) (hp : base.target p ≠ place) {q : Place}
    (hq : d.resolve p = .ok q) : place ∉ base.trail p := by
  intro hmem
  rw [← trail_congr h.left] at hmem
  have hne : place ≠ q := by
    rw [eq_target_of_resolve hq, target_congr h.left]
    exact hp.symm
  exact hplace (folder_of_mem_stops (found_start_of_resolve hq).1 hmem hne)

/-- A path that leads elsewhere names a file on the one disk if it does on the other, as long as the
place holds no folder. -/
theorem isFile_of_isFile (h : AgreeBut base place d e) (hplace : d.found place ≠ some .folder)
    (hp : base.target p ≠ place) (hfile : d.isFile p = true) : e.isFile p = true := by
  obtain ⟨data, runnable, hfound⟩ := isFile_iff.mp hfile
  have hresolve : ∃ q, d.resolve p = .ok q := by
    unfold Disk.foundAt at hfound
    split at hfound
    · cases hfound
    · next q hq =>
      exact ⟨q, hq⟩
  obtain ⟨q, hq⟩ := hresolve
  rw [h.off.foundAt (avoids_of_not_mem (h.not_mem_trail_of_resolve hplace hp hq))] at hfound
  exact isFile_iff.mpr ⟨data, runnable, hfound⟩

theorem isFile (h : AgreeBut base place d e) (hleft : d.found place ≠ some .folder)
    (hright : e.found place ≠ some .folder) (hp : base.target p ≠ place) :
    d.isFile p = e.isFile p := by
  rw [Bool.eq_iff_iff]
  exact ⟨h.isFile_of_isFile hleft hp, h.symm.isFile_of_isFile hright hp⟩

end AgreeBut

/-!
## Files that have been written

A file that has been written is read back by the same path, and nothing else has changed.  Devices
are left out, which keep nothing.  Making a folder that is there already changes nothing.

* `locate_eq_file`: where a file is to be written;
* `writeFile_eq_ok`: what is found and read after writing;
* `makeFolders_of_isFolder`: a folder that is there.
-/

section

variable {d e : Disk} {p : Path}

/-- A file is located by a path that ends in its name, whose other pieces lead to its folder. -/
theorem locate_eq_file {folder : Place} {name : Text}
    (h : d.locate p = .ok ⟨folder, some name, false⟩) :
    textFault? p = none ∧
      ∃ front, Text.pieces '/' p.text = front ++ [name] ∧ d.walk (d.start p) front = .ok folder ∧
        Path.isIdle name = false ∧ isUp name = false := by
  obtain ⟨htext, front, slashes, hpieces, -, hnone, hwalk, hname⟩ := pieces_of_locate h
  rw [hnone rfl] at hpieces
  exact ⟨htext, front, hpieces, hwalk, hname⟩

/-- A file that is there is named by the path that locates it. -/
theorem resolve_of_walk {front : List Text} {folder : Place} {name : Text}
    (htext : textFault? p = none) (hpieces : Text.pieces '/' p.text = front ++ [name])
    (hwalk : d.walk (d.start p) front = .ok folder) (hfolder : d.found folder = some .folder)
    (hname : Path.isIdle name = false ∧ isUp name = false) (hlong : isTooLong name = false)
    (hfound : d.found (folder ++ [name]) ≠ none) : d.resolve p = .ok (folder ++ [name]) := by
  have hturn : turn folder name = folder ++ [name] := by simp [turn, hname]
  unfold resolve follow
  rw [htext, hpieces]
  exact walk_append_eq_ok_iff.mpr ⟨folder, hwalk, walk_singleton_eq_ok_iff.mpr
    (step_eq_ok_iff.mpr ⟨hfolder, hturn.symm, Or.inr (Or.inr ⟨hlong, hfound⟩)⟩)⟩

/-- What a file that has been written looks like.  It is no folder before, and holds the data
after. -/
structure Written (d e : Disk) (p : Path) (data : Bytes) : Prop where
  agree : AgreeBut d (d.target p) d e
  before : d.found (d.target p) ≠ some .folder
  file : ∃ runnable, e.found (d.target p) = some (.file data runnable)
  readFile : e.readFile p = .ok data

/-- Writing puts a file where the path leads, unless a device is there. -/
theorem writeFile_eq_put {data : Bytes} (h : d.writeFile p data = .ok e)
    (hdevice : ∀ x, d.foundAt p ≠ some (.device x)) :
    ∃ folder name runnable,
      d.locate p = .ok ⟨folder, some name, false⟩ ∧ isTooLong name = false ∧
        d.found (folder ++ [name]) ≠ some .folder ∧
          e = d.put (folder ++ [name]) (.file data runnable) := by
  unfold writeFile at h
  split at h
  · cases h
  · cases h
  · cases h
  · next folder name hlocate =>
    split at h
    · cases h
    · next hlong =>
      have hshort : isTooLong name = false := by simpa using hlong
      have hnone : ∀ x, d.lookup (folder ++ [name]) ≠ some (.device x) := by
        intro x hx
        obtain ⟨htext, front, hpieces, hwalk, hname⟩ := locate_eq_file hlocate
        have hfound : d.found (folder ++ [name]) = some (.device x.sent) := by
          rw [found, hx]
          rfl
        have hresolve := resolve_of_walk htext hpieces hwalk (locate_eq_ok hlocate).1 hname hshort
          (by simp [hfound])
        refine hdevice x.sent ?_
        rw [foundAt, hresolve]
        exact hfound
      cases hx : d.lookup (folder ++ [name]) with
      | none =>
          rw [hx] at h
          exact ⟨folder, name, false, hlocate, hshort, by simp [found_eq_folder_iff, hx],
            (Except.ok.inj h).symm⟩
      | some x =>
          rw [hx] at h
          cases x with
          | folder =>
              cases h
          | file content runnable =>
              exact ⟨folder, name, runnable, hlocate, hshort, by simp [found_eq_folder_iff, hx],
                (Except.ok.inj h).symm⟩
          | device x =>
              exact absurd hx (hnone x)

/-- A file that has been written is there with its data, and all else as before. -/
theorem writeFile_eq_ok {data : Bytes} (h : d.writeFile p data = .ok e)
    (hdevice : ∀ x, d.foundAt p ≠ some (.device x)) : Written d e p data := by
  obtain ⟨folder, name, runnable, hlocate, hlong, hnofolder, rfl⟩ := writeFile_eq_put h hdevice
  obtain ⟨hfolder, htarget⟩ := locate_eq_ok hlocate
  obtain ⟨htext, front, hpieces, hwalk, hname⟩ := locate_eq_file hlocate
  have hput := fun q => @found_put_of_folder d folder name hfolder (.file data runnable) q
  have hbelow : ∀ q, q ≠ folder ++ [name] → folder ++ [name] <+: q → d.found q = none := by
    intro q hne hq
    by_contra hfound
    exact hnofolder (found_above hq hne.symm hfound)
  have helse : ∀ q, q ≠ folder ++ [name] →
      (d.put (folder ++ [name]) (.file data runnable)).found q = d.found q := by
    intro q hne
    rw [hput, if_neg hne]
    split
    · next hq =>
      exact (hbelow q hne hq).symm
    · rfl
  have hhere : (d.put (folder ++ [name]) (.file data runnable)).found (folder ++ [name]) =
      some (.file data runnable) := by
    rw [hput, if_pos rfl]
    rfl
  -- The way to the folder passes folders only, and these are still there.
  have hway : ∀ r ∈ stops (d.start p) front, r ≠ folder ++ [name] := by
    rintro r hr rfl
    by_cases heq : folder ++ [name] = folder
    · simp at heq
    · exact hnofolder (folder_of_mem_stops hwalk hr heq)
  have hwalk' : (d.put (folder ++ [name]) (.file data runnable)).walk (d.start p) front =
      .ok folder := by
    rw [← hwalk]
    exact walk_congr fun r hr => helse r (hway r hr)
  have hresolve := resolve_of_walk htext hpieces hwalk'
    ((helse folder (by simp)).trans hfolder) hname hlong (by simp [hhere])
  constructor
  · exact ⟨rfl, rfl, fun q hq => (helse q (htarget ▸ hq)).symm⟩
  · rwa [htarget]
  · rw [htarget]
    exact ⟨runnable, hhere⟩
  · unfold readFile
    rw [hresolve]
    dsimp only
    rw [found_eq_file_iff.mp hhere]

/-- What has been written stays written when all is sent. -/
theorem Written.of_found {f : Disk} {data : Bytes} (h : Written d e p data)
    (hworking : f.working = e.working) (hfound : f.found = e.found) : Written d f p data := by
  refine ⟨⟨rfl, hworking.trans h.agree.right, ?_⟩, h.before, ?_, ?_⟩
  · rw [hfound]
    exact h.agree.found
  · rw [hfound]
    exact h.file
  · rw [← h.readFile]
    exact readFile_congr (start_congr hworking.symm p) fun r _ => by rw [hfound]

/-- Making a folder that is there already fails, but not because something is missing. -/
theorem makeFolder_of_isFolder (h : d.isFolder p = true) :
    ∃ fault, d.makeFolder p = .error fault ∧ fault ≠ .missing := by
  rw [isFolder_iff] at h
  unfold foundAt at h
  split at h
  · cases h
  · next q hq =>
    have hwalk := (found_start_of_resolve hq).1
    have htext := textFault?_of_resolve hq
    unfold makeFolder
    cases hlocate : d.locate p with
    | error fault =>
        -- The pieces in front of the last one have been walked along, too.
        exfalso
        unfold locate at hlocate
        rw [htext] at hlocate
        dsimp only at hlocate
        split at hlocate
        · cases hlocate
        · next last before hlast =>
          obtain ⟨slashes, hpieces, -⟩ := pieces_of_dropWhile hlast
          rw [hpieces] at hwalk
          obtain ⟨folder, hfront, hrest⟩ := walk_append_eq_ok_iff.mp hwalk
          have hfolder := (step_eq_ok_iff.mp (walk_cons_eq_ok_iff.mp hrest).1).1
          rw [hfront] at hlocate
          dsimp only at hlocate
          rw [if_neg (by simp [found_eq_folder_iff.mp hfolder])] at hlocate
          split at hlocate <;> cases hlocate
    | ok spot =>
        obtain ⟨folder, - | name, slash⟩ := spot
        · exact ⟨.taken, rfl, by decide⟩
        · have htarget := (locate_eq_ok hlocate).2
          rw [eq_target_of_resolve hq, htarget, found_eq_folder_iff] at h
          dsimp only
          rw [h]
          split
          · exact ⟨.nameTooLong, rfl, by decide⟩
          · exact ⟨.taken, rfl, by decide⟩

/-- Making a folder that is there already, with its parents, changes nothing. -/
theorem makeFolders_of_isFolder (h : d.isFolder p = true) : d.makeFolders p = (d, none) := by
  obtain ⟨fault, hmake, hfault⟩ := makeFolder_of_isFolder h
  unfold makeFolders chain
  cases p.parent? with
  | none =>
      rfl
  | some parent =>
      dsimp only
      rw [makeFirst, hmake]
      cases fault with
      | missing =>
          exact absurd rfl hfault
      | _ =>
          simp [h]

/-- A folder that a path leads to is not made again. -/
theorem makeFolders_of_leads {folder : Place} (h : d.Leads p folder)
    (htext : p.text = [] ∨ textFault? p = none) : d.makeFolders p = (d, none) := by
  rcases htext with hnil | htext
  · obtain rfl : p = ⟨[]⟩ := by
      cases p
      exact congrArg Path.mk hnil
    rfl
  · have hresolve : d.resolve p = .ok folder := by
      rw [resolve, htext]
      exact (leads_iff_walk.mp h).1
    refine makeFolders_of_isFolder (isFolder_iff.mpr ?_)
    rw [foundAt, hresolve]
    exact h.found

end

end Disk
end IconAssets
