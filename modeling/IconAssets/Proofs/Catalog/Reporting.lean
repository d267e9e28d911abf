import IconAssets.Proofs.Catalog.Item
import IconAssets.Proofs.Catalog.Swap
import IconAssets.Proofs.Reporting

/-!
# What generations report and announce

A generation passes over an icon that spells no identifier, or whose provider has no directory, and
reports that.  If all icons have the path of an image, nothing of the kind is reported, whether the
generation succeeds or fails.  The assets that it announces are those of its icons, in the order in
which they come first.

* `Event.passesOver`, `Event.invalid?`: events about icons that are left out;
* `generate_reports`: a generation reports none of them if all icons have paths;
* `map_assetName_generate`: the assets that are announced.
-/

namespace IconAssets

namespace Event

/-- Whether an event tells that a generation has passed over an icon. -/
def passesOver : Event → Bool
  | .iconUnparseable _ | .iconUnmapped _ => true
  | _ => false

/-- The icon that an event calls invalid. -/
def invalid? : Event → Option Text
  | .iconInvalid raw => some raw
  | _ => none

/-- An event is about no icon that is left out. -/
structure Plain (e : Event) : Prop where
  passesOver : e.passesOver = false
  invalid? : e.invalid? = none

end Event

/-- The canonical spelling of an icon, if it is one. -/
def Identifier.canonicalName? (raw : Text) : Option Text := (parse raw).map assetName

/-- The keys of the first items are the keys, each once. -/
theorem map_firstsBy {α : Type} (key : α → Text) (xs : List α) :
    (firstsBy key xs).map key = firstOccurrences (xs.map key) := by
  induction xs with
  | nil =>
      rfl
  | cons x xs ih =>
      rw [firstsBy, List.map_cons, List.map_cons, firstOccurrences, ← ih, List.filter_map]
      rfl

namespace Catalog

open Run

variable {roots : Roots} {icons written : List Text} {staging catalog output : Path} {w w' : World}

/-- Icons that have paths have the asset names of their canonical spellings. -/
theorem map_assetName_mapped (h : ∀ raw ∈ icons, Image.pathOf? roots raw ≠ none) :
    (mapped roots icons).map (fun c => c.1.assetName) =
      icons.filterMap Identifier.canonicalName? := by
  unfold mapped
  rw [List.map_filterMap]
  refine List.filterMap_congr fun raw hraw => ?_
  have hpath := h raw hraw
  unfold Image.pathOf? at hpath
  unfold Identifier.canonicalName?
  cases hparse : Identifier.parse raw with
  | none =>
      rfl
  | some icon =>
      rw [hparse, Option.bind_some] at hpath
      obtain ⟨source, hsource⟩ := Option.ne_none_iff_exists'.mp hpath
      simp [hsource]

theorem assetName_writeEntry {icon : Identifier} {source : Path} {e : Entry}
    (h : writeEntry staging catalog icon source w = .ok e w') : e.assetName = icon.assetName := by
  unfold writeEntry at h
  cases hfilename : source.fileName? with
  | none =>
      rw [hfilename] at h
      exact absurd h fail_ne_ok
  | some filename =>
      rw [hfilename] at h
      simp only [bind_eq_ok_iff, pure_eq_ok_iff] at h
      obtain ⟨_, _, -, _, _, -, _, _, -, _, _, -, rfl, -⟩ := h
      rfl

/-- Writing image sets announces the assets of the chosen icons that have not been written
before. -/
theorem map_assetName_writeEntries {es : List Entry}
    (h : writeEntries roots staging catalog written icons w = .ok es w') :
    es.map Entry.assetName =
      ((chosen roots icons).filter fun c => c.1.assetName ∉ written).map
        fun c => c.1.assetName := by
  induction icons generalizing w written es with
  | nil =>
      obtain ⟨rfl, -⟩ := pure_eq_ok_iff.mp h
      rfl
  | cons raw icons ih =>
      cases next_cases roots staging catalog written raw icons with
      | passedOver e _ hchosen hrun =>
          rw [hrun] at h
          rw [hchosen]
          exact ih (report_bind_eq_ok_iff.mp h)
      | written _ _ _ hchosen hrun =>
          rw [hrun] at h
          obtain ⟨e, v, hentry, h⟩ := bind_eq_ok_iff.mp h
          obtain ⟨es', hes, rfl⟩ := bind_pure_eq_ok_iff.mp h
          rw [hchosen, List.map_cons, List.map_cons, assetName_writeEntry hentry, ih hes]

/-- A generation that succeeds announces the assets of its icons, each once. -/
theorem map_assetName_generate {g : Generated}
    (hicons : ∀ raw ∈ icons, Image.pathOf? roots raw ≠ none)
    (h : generate icons roots output w = .ok g w') :
    g.entries.map Entry.assetName =
      firstOccurrences (icons.filterMap Identifier.canonicalName?) := by
  unfold generate writeAll at h
  simp only [bind_eq_ok_iff, onFailure_eq_ok_iff, pure_eq_ok_iff] at h
  obtain ⟨_, _, -, _, _, -, _, _, ⟨_, _, hentries, _, _, -, rfl, -⟩, _, _, -, _, _, -, rfl, -⟩ := h
  rw [map_assetName_writeEntries hentries, ← map_assetName_mapped hicons, ← map_firstsBy]
  simp [chosen]

theorem writeEntry_reports {P : Event → Prop} (icon : Identifier) (source : Path) :
    Reports P (writeEntry staging catalog icon source) := by
  unfold writeEntry
  split
  · exact reports_fail _
  · exact reports_makeFolders.bind fun _ => reports_read.bind fun _ => reports_change.bind fun _ =>
      reports_change.bind fun _ => reports_pure _

/-- While image sets are written, no icon is passed over if all have paths. -/
theorem writeEntries_reports (hicons : ∀ raw ∈ icons, Image.pathOf? roots raw ≠ none) :
    Reports Event.Plain (writeEntries roots staging catalog written icons) := by
  induction icons generalizing written with
  | nil =>
      exact reports_pure []
  | cons raw icons ih =>
      have hrest : ∀ written, Reports Event.Plain
          (writeEntries roots staging catalog written icons) := fun _ =>
        ih fun r hr => hicons r (List.mem_cons_of_mem _ hr)
      cases next_cases roots staging catalog written raw icons with
      | passedOver e hevent _ hrun =>
          obtain ⟨assetName, rfl⟩ := hevent (hicons raw List.mem_cons_self)
          rw [hrun]
          exact (reports_report ⟨rfl, rfl⟩).bind fun _ => hrest _
      | @written icon source _ _ _ _ hrun =>
          rw [hrun]
          exact (writeEntry_reports icon source).bind fun _ =>
            (hrest _).bind fun _ => reports_pure _

theorem writeAll_reports (hicons : ∀ raw ∈ icons, Image.pathOf? roots raw ≠ none) :
    Reports Event.Plain (writeAll roots staging catalog icons) :=
  (writeEntries_reports hicons).bind fun _ => reports_change.bind fun _ => reports_pure _

theorem discard_reports (directory : Path) : Reports Event.Plain (discard directory) :=
  reports_attempt fun _ => reports_pure ()

theorem putBack_reports (previous : Path) :
    Reports Event.Plain (putBack staging catalog previous) := by
  unfold putBack
  refine reports_disk_bind fun d => ?_
  split
  · exact (reports_setDisk _).bind fun _ => discard_reports staging
  · exact (reports_report ⟨rfl, rfl⟩).bind fun _ => discard_reports staging

theorem replaceCatalog_reports (staging catalog : Path) :
    Reports Event.Plain (replaceCatalog staging catalog) :=
  reports_change.bind fun _ => (reports_change.onFailure (putBack_reports _)).bind fun _ =>
    reports_attempt fun _ => reports_report ⟨rfl, rfl⟩

theorem swapIntoPlace_reports (staging catalog : Path) :
    Reports Event.Plain (swapIntoPlace staging catalog) := by
  have hreplace := replaceCatalog_reports staging catalog
  refine reports_disk_bind fun d => ?_
  split
  · refine reports_disk_bind fun d => ?_
    split
    · exact reports_change.bind fun _ => hreplace
    · exact hreplace
  · exact reports_change

theorem makeStaging_reports (roots : Roots) (output : Path) (icons : List Text) :
    Reports Event.Plain (makeStaging roots output icons) := by
  refine reports_disk_bind fun d => ?_
  dsimp only
  split
  · exact reports_fail _
  · exact (reports_setDisk _).bind fun _ => reports_pure _

/-- A generation passes over no icon if all have paths, and it does not ask the compiler. -/
theorem generate_reports (output : Path)
    (hicons : ∀ raw ∈ icons, Image.pathOf? roots raw ≠ none) :
    Reports Event.Plain (generate icons roots output) := by
  refine reports_makeFolders.bind fun _ => (makeStaging_reports roots output icons).bind
    fun staging => ?_
  refine ((writeAll_reports hicons).onFailure (discard_reports staging)).bind fun es => ?_
  exact (swapIntoPlace_reports _ _).bind fun _ =>
    (reports_report ⟨rfl, rfl⟩).bind fun _ => reports_pure _

end Catalog
end IconAssets
