import IconAssets.Proofs.Disk.Below
import IconAssets.Proofs.Disk.Clear
import IconAssets.Proofs.Path.Length
import IconAssets.Proofs.Source.Calls
import IconAssets.Source.Tree
import Mathlib.Data.List.Lex
import Mathlib.Data.List.Sort

/-!
# The sources of a tree

A scan of a tree reads the source files at and below its root, and its references are those of the
texts one behind the other, each once.  The texts come in the order of the names on the way to the
files, as bytes.  All else that is there is passed over, and may be changed.

* `IsSource`, `PassedOver`: what a scan reads, and what not;
* `mem_sources_iff`, `pairwise_sources`: the source texts, in order;
* `scanSights_fst`: what a scan adds to the references found before;
* `scanTree_eq_sources`: the references of a source tree;
* `isCalled_of_mem_scanTree`: the characters that they are made of.
-/

namespace IconAssets
namespace Source

/-- Whether a path and that of its folder are short enough to be followed. -/
def inReach (root : Path) (names : List Text) : Bool :=
  !Disk.isPathTooLong (pathBelow root names.dropLast) &&
    !Disk.isPathTooLong (pathBelow root names)

/-- A source file at or below a root, by the names on the way to it, and its text. -/
structure IsSource (d : Disk) (root : Path) (names : List Text) (source : Text) : Prop where
  file : ∃ place data runnable, d.resolve root = .ok place ∧
    d.lookup (place ++ names) = some (.file data runnable) ∧ Utf8.decode data = some source
  visible : ∀ name ∈ names, isHidden name = false
  extension : (pathBelow root names).extension? = some extension
  inReach : inReach root names = true

/-- What a scan does not read at the place with the given names below its root. -/
inductive PassedOver (root : Path) (names : List Text) : Option Object → Prop
  | nothing : PassedOver root names none
  | folder : PassedOver root names (some .folder)
  | device (x : Device) : PassedOver root names (some (.device x))
  | hidden {x : Option Object} {name : Text} (hname : name ∈ names) (h : isHidden name = true) :
      PassedOver root names x
  | otherExtension {x : Option Object} (h : (pathBelow root names).extension? ≠ some extension) :
      PassedOver root names x
  | notText {data : Bytes} (runnable : Bool) (h : Utf8.decode data = none) :
      PassedOver root names (some (.file data runnable))
  | outOfReach {x : Option Object} (h : inReach root names = false) : PassedOver root names x

/-- Two disks differ at and below a root only in what a scan passes over, and the root is found in
the same way. -/
structure Alike (root : Path) (d e : Disk) : Prop where
  working : e.working = d.working
  way : ∀ q ∈ d.trail root, q ≠ d.target root →
    (d.lookup q = some .folder ↔ e.lookup q = some .folder)
  below : ∀ names, d.lookup (d.target root ++ names) = e.lookup (d.target root ++ names) ∨
    PassedOver root names (d.lookup (d.target root ++ names)) ∧
      PassedOver root names (e.lookup (d.target root ++ names))

variable {d e : Disk} {root : Path} {names : List Text} {source : Text} {x : Object}

/-- The objects at and below a root that are not hidden, by the names on the way to them. -/
def objectsAt (d : Disk) (root : Path) : List (List Text × Object) :=
  match d.resolve root with
  | .error _ => []
  | .ok place =>
    match d.lookup place with
    | none => []
    | some x => ([], x) :: d.below (fun name => !isHidden name) place

theorem mem_objectsAt_iff :
    (names, x) ∈ objectsAt d root ↔
      ∃ place, d.resolve root = .ok place ∧ (∀ name ∈ names, isHidden name = false) ∧
        d.lookup (place ++ names) = some x := by
  unfold objectsAt
  cases hroot : d.resolve root with
  | error fault =>
      simp
  | ok place =>
      dsimp only
      cases hplace : d.lookup place with
      | none =>
          refine iff_of_false List.not_mem_nil ?_
          rintro ⟨_, hroot, -, hx⟩
          cases hroot
          have hnone := Disk.found_below (List.prefix_append place names)
            (Disk.found_eq_none_iff.mpr hplace)
          rw [Disk.found_eq_none_iff, hx] at hnone
          cases hnone
      | some y =>
          dsimp only
          rw [List.mem_cons, Disk.mem_below_iff]
          constructor
          · rintro (heq | ⟨-, hvisible, hx⟩)
            · obtain ⟨rfl, rfl⟩ := Prod.mk.inj heq
              exact ⟨place, rfl, by simp, by simpa using hplace⟩
            · exact ⟨place, rfl, by simpa using hvisible, hx⟩
          · rintro ⟨_, hroot, hvisible, hx⟩
            cases hroot
            by_cases hnames : names = []
            · subst hnames
              rw [List.append_nil, hplace] at hx
              exact Or.inl (by rw [Option.some.inj hx])
            · exact Or.inr ⟨hnames, by simpa using hvisible, hx⟩

theorem pairwise_objectsAt (d : Disk) (root : Path) :
    (objectsAt d root).Pairwise fun f g => List.Lex Text.Before f.1 g.1 := by
  unfold objectsAt
  split
  · exact .nil
  · split
    · exact .nil
    · refine List.pairwise_cons.mpr ⟨fun f hf => ?_, Disk.pairwise_below _ _ _⟩
      obtain ⟨name, names, hnames⟩ := List.exists_cons_of_ne_nil (Disk.mem_below_iff.mp hf).1
      rw [hnames]
      exact .nil

/-- The text of an object, if it is a source file. -/
def sourceOf? (root : Path) (names : List Text) : Object → Option Text
  | .file data _ =>
    if inReach root names = true ∧ (pathBelow root names).extension? = some extension then
      Utf8.decode data
    else none
  | _ => none

/-- The source texts at and below a root, by the names on the way to their files. -/
def sources (d : Disk) (root : Path) : List (List Text × Text) :=
  (objectsAt d root).filterMap fun f => (sourceOf? root f.1 f.2).map fun source => (f.1, source)

theorem sourceOf?_eq_some_iff :
    sourceOf? root names x = some source ↔
      ∃ data runnable, x = .file data runnable ∧ inReach root names = true ∧
        (pathBelow root names).extension? = some extension ∧ Utf8.decode data = some source := by
  cases x with
  | file data runnable =>
      simp only [sourceOf?, Option.ite_none_right_eq_some, Object.file.injEq]
      constructor
      · rintro ⟨⟨hreach, hextension⟩, hsource⟩
        exact ⟨data, runnable, ⟨rfl, rfl⟩, hreach, hextension, hsource⟩
      · rintro ⟨_, _, ⟨rfl, rfl⟩, hreach, hextension, hsource⟩
        exact ⟨⟨hreach, hextension⟩, hsource⟩
  | folder =>
      simp [sourceOf?]
  | device x =>
      simp [sourceOf?]

theorem mem_sources_iff : (names, source) ∈ sources d root ↔ IsSource d root names source := by
  rw [sources, List.mem_filterMap]
  constructor
  · rintro ⟨⟨_, x⟩, hobject, hsource⟩
    obtain ⟨_, htext, heq⟩ := Option.map_eq_some_iff.mp hsource
    obtain ⟨rfl, rfl⟩ := Prod.mk.inj heq
    obtain ⟨place, hroot, hvisible, hx⟩ := mem_objectsAt_iff.mp hobject
    obtain ⟨data, runnable, rfl, hreach, hextension, hdecode⟩ := sourceOf?_eq_some_iff.mp htext
    exact ⟨⟨place, data, runnable, hroot, hx, hdecode⟩, hvisible, hextension, hreach⟩
  · rintro ⟨⟨place, data, runnable, hroot, hx, hdecode⟩, hvisible, hextension, hreach⟩
    refine ⟨(names, .file data runnable), mem_objectsAt_iff.mpr ⟨place, hroot, hvisible, hx⟩, ?_⟩
    rw [Option.map_eq_some_iff]
    exact ⟨source, sourceOf?_eq_some_iff.mpr ⟨data, runnable, rfl, hreach, hextension, hdecode⟩, rfl⟩

theorem pairwise_sources (d : Disk) (root : Path) :
    (sources d root).Pairwise fun f g => List.Lex Text.Before f.1 g.1 := by
  rw [sources, List.pairwise_filterMap]
  refine (pairwise_objectsAt d root).imp fun {f g} hlex f' hf g' hg => ?_
  obtain ⟨-, -, rfl⟩ := Option.map_eq_some_iff.mp hf
  obtain ⟨-, -, rfl⟩ := Option.map_eq_some_iff.mp hg
  exact hlex

/-- The text that a scan reads at a sight. -/
def Sight.source? : Sight → Option Text
  | .file path data => (textOf path data).toOption
  | .outOfReach _ => none

/-- A scan adds the references of the texts that it reads to those found before. -/
theorem scanSights_fst (root : Path) (found : List Text) (sights : List Sight) :
    (scanSights root found sights).1 = found ++
      (firstOccurrences ((sights.filterMap Sight.source?).flatMap references)).filter
        (· ∉ found) := by
  induction sights generalizing found with
  | nil =>
      simp [scanSights]
  | cons sight sights ih =>
      cases sight with
      | outOfReach folder =>
          simpa [scanSights, Sight.source?, List.filterMap_cons] using ih found
      | file path data =>
          unfold scanSights
          cases htext : textOf path data with
          | error fault =>
              simpa [Sight.source?, htext, Except.toOption, List.filterMap_cons] using ih found
          | ok source =>
              have hsight : (Sight.file path data).source? = some source := by
                simp [Sight.source?, htext, Except.toOption]
              have hreferences : firstOccurrences (references source) = references source :=
                firstOccurrences_of_nodup (nodup_firstOccurrences _)
              dsimp only
              rw [ih, List.filterMap_cons_some hsight, List.flatMap_cons, firstOccurrences_append,
                hreferences, List.filter_append, List.append_assoc, List.filter_filter]
              simp only [← decide_not]
              congr 2
              refine List.filter_congr fun name _ => ?_
              by_cases hold : name ∈ found <;> by_cases hnew : name ∈ references source <;>
                simp [hold, hnew]

/-- What a scan comes across at an object, by its names below the root. -/
def sightOf? (root : Path) (f : List Text × Object) : Option Sight :=
  if Disk.isPathTooLong (pathBelow root f.1.dropLast) then none
  else
    match f.2 with
    | .folder =>
      if Disk.isPathTooLong (pathBelow root f.1) then some (.outOfReach (pathBelow root f.1))
      else none
    | .file data _ => some (.file (pathBelow root f.1) data)
    | .device _ => none

/-- A root that is found has a path that is short enough. -/
theorem isPathTooLong_of_resolve {place : Place} (h : d.resolve root = .ok place) :
    Disk.isPathTooLong root = false :=
  Disk.isPathTooLong_of_textFault? (Disk.textFault?_of_resolve h)

theorem sights_eq_filterMap (d : Disk) (root : Path) :
    sights d root = (objectsAt d root).filterMap (sightOf? root) := by
  unfold sights objectsAt
  cases hroot : d.resolve root with
  | error fault =>
      rfl
  | ok place =>
      have hshort := isPathTooLong_of_resolve hroot
      dsimp only
      cases hplace : d.lookup place with
      | none =>
          rfl
      | some x =>
          rw [List.filterMap_cons]
          cases x with
          | folder =>
              simp only [sightOf?, pathBelow, List.dropLast_nil, List.foldl_nil, hshort]
              rfl
          | file data runnable =>
              rw [Disk.below_eq_nil (by simp [hplace])]
              simp [sightOf?, hshort, pathBelow]
          | device x =>
              rw [Disk.below_eq_nil (by simp [hplace])]
              simp [sightOf?]

/-- What a scan reads at an object is its text if it is a source file. -/
theorem source?_sightOf? (root : Path) (f : List Text × Object) :
    ((sightOf? root f).filter Sight.counts).bind Sight.source? = sourceOf? root f.1 f.2 := by
  obtain ⟨names, x⟩ := f
  unfold sightOf? sourceOf? inReach
  dsimp only
  cases hfolder : Disk.isPathTooLong (pathBelow root names.dropLast) with
  | true =>
      cases x <;> simp
  | false =>
      cases hpath : Disk.isPathTooLong (pathBelow root names) with
      | true =>
          cases x <;> simp [Sight.source?, textOf, hpath, Except.toOption]
      | false =>
          cases x with
          | folder =>
              simp
          | device x =>
              simp
          | file data runnable =>
              by_cases hextension : (pathBelow root names).extension? = some extension
              · have hcounts : (Sight.file (pathBelow root names) data).counts = true :=
                  decide_eq_true hextension
                simp only [Bool.false_eq_true, if_false, Option.filter_some, hcounts, if_true,
                  Option.bind_some, Sight.source?, textOf, hpath, hextension]
                cases Utf8.decode data <;> rfl
              · simp [hextension, Sight.counts]

theorem filterMap_source?_sights (d : Disk) (root : Path) :
    ((sights d root).filter Sight.counts).filterMap Sight.source? =
      (sources d root).map Prod.snd := by
  rw [sights_eq_filterMap, List.filter_filterMap, List.filterMap_filterMap, sources,
    List.map_filterMap]
  congr 1
  funext f
  rw [source?_sightOf?]
  cases sourceOf? root f.1 f.2 <;> rfl

theorem sources_of_missing (h : d.hasObject root = false) : sources d root = [] := by
  unfold Disk.hasObject Disk.find? at h
  unfold sources objectsAt
  cases hroot : d.resolve root with
  | error fault =>
      rfl
  | ok place =>
      rw [hroot] at h
      dsimp only at h ⊢
      rw [Option.isSome_eq_false_iff, Option.isNone_iff_eq_none] at h
      rw [h]
      rfl

/-- The references of a tree are those of its source texts. -/
theorem scanTree_fst (d : Disk) (root : Path) :
    (scanTree d root).1 = firstOccurrences ((sources d root).flatMap fun f => references f.2) := by
  unfold scanTree
  split
  · rw [scanSights_fst, filterMap_source?_sights, List.flatMap_map]
    simp
  · next hmissing =>
    rw [sources_of_missing (Bool.eq_false_of_not_eq_true hmissing)]
    rfl

theorem PassedOver.not_isSource {place : Place} (hroot : d.resolve root = .ok place)
    (h : PassedOver root names (d.lookup (place ++ names))) : ¬IsSource d root names source := by
  rintro ⟨⟨_, data, runnable, hroot', hx, hdecode⟩, hvisible, hextension, hreach⟩
  rw [hroot] at hroot'
  cases hroot'
  rw [hx] at h
  cases h with
  | hidden hname hhidden =>
      simp [hvisible _ hname] at hhidden
  | otherExtension hother =>
      exact hother hextension
  | notText _ hnot =>
      simp [hdecode] at hnot
  | outOfReach hout =>
      simp [hreach] at hout

namespace Alike

theorem symm (h : Alike root d e) : Alike root e d := by
  have htarget := Disk.target_congr h.working root
  refine ⟨h.working.symm, fun q hq hne => ?_, fun names => ?_⟩
  · rw [Disk.trail_congr h.working] at hq
    exact (h.way q hq (htarget ▸ hne)).symm
  · rw [htarget]
    exact (h.below names).imp Eq.symm And.symm

/-- A source file is not passed over, so it is on the other disk too, and its root is found. -/
theorem isSource (h : Alike root d e) (hsource : IsSource d root names source) :
    IsSource e root names source := by
  obtain ⟨place, data, runnable, hroot, hx, hdecode⟩ := hsource.file
  have htarget := Disk.eq_target_of_resolve hroot
  have hsame : d.lookup (place ++ names) = e.lookup (place ++ names) := by
    rw [htarget]
    refine (h.below names).resolve_right fun ⟨hpassed, _⟩ => ?_
    rw [← htarget] at hpassed
    exact hpassed.not_isSource hroot hsource
  have hplace : e.found place = d.found place := by
    by_cases hnames : names = []
    · rw [hnames, List.append_nil] at hsame
      rw [Disk.found, Disk.found, hsame]
    · rw [Disk.found, Disk.found, Disk.folder_of_below hnames (hsame ▸ hx),
        Disk.folder_of_below hnames hx]
  have hroot' : e.resolve root = .ok place := by
    refine Disk.resolve_of_agree hroot (Disk.start_congr h.working root) fun q hq _ => ?_
    by_cases hne : q = place
    · rw [hne, hplace]
    · have hfolder := Disk.folder_of_mem_stops (Disk.found_start_of_resolve hroot).1 hq hne
      rw [hfolder, Disk.found_eq_folder_iff, ← h.way q hq (htarget ▸ hne)]
      exact Disk.found_eq_folder_iff.mp hfolder
  exact ⟨⟨place, data, runnable, hroot', hsame ▸ hx, hdecode⟩, hsource.visible,
    hsource.extension, hsource.inReach⟩

theorem sources_eq (h : Alike root d e) : sources d root = sources e root := by
  refine (pairwise_sources d root).eq_of_mem_iff (pairwise_sources e root) ?_
  rintro ⟨names, source⟩
  rw [mem_sources_iff, mem_sources_iff]
  exact ⟨h.isSource, h.symm.isSource⟩

/-- Whatever is put under a hidden name below the root is passed over, unless the root is found by
way of it. -/
theorem put_hidden {name : Text} (hfolder : d.lookup (d.target root ++ names) = some .folder)
    (hhidden : isHidden name = true)
    (hway : ∀ q ∈ d.trail root, ¬d.target root ++ names ++ [name] <+: q) (x : Object) :
    Alike root d (d.put (d.target root ++ names ++ [name]) x) := by
  have hsame : ∀ q, ¬d.target root ++ names ++ [name] <+: q →
      d.lookup q = (d.put (d.target root ++ names ++ [name]) x).lookup q := by
    intro q hq
    have hne : q ≠ d.target root ++ names ++ [name] := by
      rintro rfl
      exact hq List.prefix_rfl
    rw [Disk.lookup_put d hfolder x q, if_neg hne,
      if_neg fun h => hq (List.isPrefixOf_iff_prefix.mp h)]
  refine ⟨rfl, fun q hq _ => by rw [hsame q (hway q hq)], fun rest => ?_⟩
  by_cases hbelow : d.target root ++ names ++ [name] <+: d.target root ++ rest
  · rw [List.append_assoc, List.prefix_append_right_inj] at hbelow
    have hname : name ∈ rest := hbelow.subset (by simp)
    exact Or.inr ⟨.hidden hname hhidden, .hidden hname hhidden⟩
  · exact Or.inl (hsame _ hbelow)

end Alike

/-- A disk with a source file beside a hidden folder. -/
def houseTree : Disk :=
  ⟨[(["s".toList], .folder),
    (["s".toList, "A.swift".toList], .file (Utf8.encode "Image(\"ph.house\")".toList) false),
    (["s".toList, ".h".toList], .folder)], []⟩

/-- The disk with a call in a hidden file too. -/
def hiddenTree : Disk :=
  houseTree.put (houseTree.target ⟨"s".toList⟩ ++ [] ++ [".B.swift".toList])
    (.file (Utf8.encode "Image(\"ph.bell\")".toList) false)

/-- A name of 252 bytes. -/
def longFolder : Text := List.replicate 63 '𝒾'

/-- A path of 4092 bytes. -/
def distantRoot : Path :=
  ⟨(List.replicate 15 (longFolder ++ "/../".toList)).flatten ++ longFolder⟩

/-- A disk with a source file in a folder with a long name. -/
def distantTree : Disk :=
  ⟨[([longFolder], .folder),
    ([longFolder, "A.swift".toList], .file (Utf8.encode "Image(\"ph.house\")".toList) false)], []⟩

/-- A text of name characters. -/
def IsCalled (name : Text) : Prop := ∀ c ∈ name, isNameChar c = true

theorem isCalled_of_mem_references {source name : Text} (h : name ∈ references source) :
    IsCalled name :=
  (isIconSpelling_iff.mp (isIconSpelling_of_mem_references h)).1

/-- What a scan adds to the names found before is made of name characters. -/
theorem isCalled_of_mem_scanSights {root : Path} {sights : List Sight} {found : List Text}
    (hfound : ∀ name ∈ found, IsCalled name) :
    ∀ name ∈ (scanSights root found sights).1, IsCalled name := by
  induction sights generalizing found with
  | nil =>
      exact hfound
  | cons sight more ih =>
      cases sight with
      | outOfReach folder =>
          exact ih hfound
      | file path data =>
          unfold scanSights
          split
          · exact ih hfound
          · refine ih fun name hname => ?_
            rcases List.mem_append.mp hname with hname | hname
            · exact hfound name hname
            · exact isCalled_of_mem_references ((List.mem_filter.mp hname).1)

/-- The names found in a source tree are made of name characters. -/
theorem isCalled_of_mem_scanTree {d : Disk} {root : Path} :
    ∀ name ∈ (scanTree d root).1, IsCalled name := by
  unfold scanTree
  split
  · exact isCalled_of_mem_scanSights fun _ h => absurd h List.not_mem_nil
  · exact fun _ h => absurd h List.not_mem_nil

theorem IsCalled.slash_not_mem {name : Text} (h : IsCalled name) : '/' ∉ name := fun hslash =>
  absurd (h '/' hslash) (by decide)

end Source
end IconAssets
