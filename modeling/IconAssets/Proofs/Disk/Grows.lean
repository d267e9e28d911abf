import IconAssets.Proofs.Disk.Reading

/-!
# Growing disks

A disk grows if all that was found is still found.  On a grown disk paths lead where they led, and
what could be read is still read.  Making folders only lets a disk grow.

* `Grows.leads`, `Grows.readFile`: what stays on a grown disk;
* `grows_put`, `grows_makeFolders`: changes that let a disk grow;
* `makeFolders_child`: a missing folder in a folder that is there.
-/

namespace IconAssets
namespace Disk

/-- All that is found on a disk is found on another. -/
structure Grows (d e : Disk) : Prop where
  working : e.working = d.working
  found : ∀ q, d.found q ≠ none → e.found q = d.found q

theorem home_congr {d e : Disk} (h : e.working = d.working) : e.home = d.home := by
  rw [home, home, h]

theorem start_congr {d e : Disk} (h : e.working = d.working) (p : Path) :
    e.start p = d.start p := by
  rw [start, start, home_congr h]

namespace Grows

theorem refl (d : Disk) : d.Grows d := ⟨rfl, fun _ _ => rfl⟩

theorem trans {d e f : Disk} (hde : d.Grows e) (hef : e.Grows f) : d.Grows f := by
  refine ⟨hef.working.trans hde.working, fun q hq => ?_⟩
  have he := hde.found q hq
  rw [hef.found q (by rwa [he]), he]

theorem leads {d e : Disk} (h : d.Grows e) {p : Path} {folder : Place} (hp : d.Leads p folder) :
    e.Leads p folder :=
  hp.of_agree (start_congr h.working p) fun r _ => h.found r

theorem resolve {d e : Disk} (h : d.Grows e) {p : Path} {q : Place} (hp : d.resolve p = .ok q) :
    e.resolve p = .ok q :=
  resolve_of_agree hp (start_congr h.working p) fun r _ => h.found r

theorem readFile {d e : Disk} (h : d.Grows e) {p : Path} {data : Bytes}
    (hp : d.readFile p = .ok data) : e.readFile p = .ok data :=
  readFile_of_agree hp (start_congr h.working p) fun r _ => h.found r

end Grows

theorem grows_put {d : Disk} {p : Place} {name : Text} (hp : d.found p = some .folder)
    (hname : d.found (p ++ [name]) = none) (x : Object) : d.Grows (d.put (p ++ [name]) x) := by
  refine ⟨rfl, fun q hq => ?_⟩
  rw [found_put hp hname, if_neg]
  rintro rfl
  exact hq hname

/-- A located object is in a folder. -/
theorem found_of_locate {d : Disk} {p : Path} {s : Spot} (h : d.locate p = .ok s)
    (hname : s.name ≠ none) : d.found s.folder = some .folder := by
  unfold locate at h
  split at h
  · cases h
  · dsimp only at h
    split at h
    · cases h
      exact absurd rfl hname
    · split at h
      · cases h
      · split at h
        · cases h
        · next hfolder =>
          have hfound := found_eq_folder_iff.mpr (not_not.mp hfolder)
          split at h <;> cases h <;> exact hfound

/-- A folder that is made is a new one in a folder that is there. -/
theorem makeFolder_eq_ok {d e : Disk} {p : Path} (h : d.makeFolder p = .ok e) :
    ∃ folder name, d.found folder = some .folder ∧ d.found (folder ++ [name]) = none ∧
      e = d.put (folder ++ [name]) .folder := by
  unfold makeFolder at h
  split at h
  · cases h
  · cases h
  · next folder name _ hspot =>
    split at h
    · cases h
    · split at h
      · cases h
      · next hnone =>
        exact ⟨folder, name, found_of_locate hspot (by simp), found_eq_none_iff.mpr hnone,
          (Except.ok.inj h).symm⟩

theorem grows_makeFolder {d e : Disk} {p : Path} (h : d.makeFolder p = .ok e) : d.Grows e := by
  obtain ⟨folder, name, hfolder, hnone, rfl⟩ := makeFolder_eq_ok h
  exact grows_put hfolder hnone .folder

/-- Making folders is making one folder behind another, as far as it comes. -/
theorem makeFirst_of_makeFolder {R : Disk → Disk → Prop} {ps : List Path} (hrefl : ∀ d, R d d)
    (htrans : ∀ d e f, R d e → R e f → R d f)
    (hmake : ∀ p ∈ ps, ∀ d e, d.makeFolder p = .ok e → R d e) (d : Disk) :
    R d (d.makeFirst ps).1 := by
  induction ps generalizing d with
  | nil =>
      exact hrefl d
  | cons p parents ih =>
      have hp := hmake p List.mem_cons_self
      unfold makeFirst
      cases hfirst : d.makeFolder p with
      | ok e =>
          exact hp d e hfirst
      | error fault =>
          cases fault with
          | missing =>
              have hparents := ih (fun q hq => hmake q (List.mem_cons_of_mem _ hq)) d
              cases hrest : d.makeFirst parents with
              | mk e problem =>
                  rw [hrest] at hparents
                  cases problem with
                  | some problem =>
                      exact hparents
                  | none =>
                      dsimp only
                      cases hlast : e.makeFolder p with
                      | ok f =>
                          exact htrans d e f hparents (hp e f hlast)
                      | error problem =>
                          exact hparents
          | _ =>
              exact hrefl d

theorem grows_makeFirst (d : Disk) (ps : List Path) : d.Grows (d.makeFirst ps).1 :=
  makeFirst_of_makeFolder Grows.refl (fun _ _ _ => Grows.trans)
    (fun _ _ _ _ => grows_makeFolder) d

/-- What is new where folders are made is a folder. -/
theorem found_makeFirst (d : Disk) (ps : List Path) (q : Place) :
    (d.makeFirst ps).1.found q = d.found q ∨
      d.found q = none ∧ (d.makeFirst ps).1.found q = some .folder := by
  refine makeFirst_of_makeFolder
    (R := fun d e => e.found q = d.found q ∨ d.found q = none ∧ e.found q = some .folder)
    (fun _ => Or.inl rfl) ?_ ?_ d
  · rintro d e f (he | ⟨hnone, he⟩) (hf | ⟨hnone', hf⟩)
    · exact Or.inl (hf.trans he)
    · exact Or.inr ⟨he ▸ hnone', hf⟩
    · exact Or.inr ⟨hnone, hf.trans he⟩
    · exact Or.inr ⟨hnone, hf⟩
  · intro p _ d e hmake
    obtain ⟨folder, name, hfolder, hnone, rfl⟩ := makeFolder_eq_ok hmake
    rw [found_put hfolder hnone]
    split
    · next hq =>
      exact Or.inr ⟨hq ▸ hnone, rfl⟩
    · exact Or.inl rfl

/-- Making folders lets a disk grow, whether it succeeds or not. -/
theorem grows_makeFolders (d : Disk) (p : Path) : d.Grows (d.makeFolders p).1 :=
  grows_makeFirst d _

theorem text_child_ne_nil (p : Path) {name : Text} (h : Path.IsName name) :
    (p.child name).text ≠ [] := by
  intro hnil
  have hmoves := Path.moves_child p h
  rw [Path.moves, hnil] at hmoves
  simp at hmoves

/-- A folder that cannot be made in a folder that is there fails for another reason than a missing
folder. -/
theorem makeFolder_child_ne_missing {d : Disk} {p : Path} {name : Text} {folder : Place}
    (h : Path.IsName name) (hleads : d.Leads p folder) :
    d.makeFolder (p.child name) ≠ .error .missing := by
  intro hmake
  unfold makeFolder at hmake
  cases htext : textFault? (p.child name) with
  | none =>
      rw [(locate_child_eq_ok_iff h).mpr ⟨htext, folder, hleads, rfl⟩] at hmake
      dsimp only at hmake
      split at hmake
      · cases hmake
      · split at hmake <;> cases hmake
  | some fault =>
      rw [locate_of_textFault? htext] at hmake
      cases Except.error.inj hmake
      unfold textFault? at htext
      split at htext
      · cases htext
      · rw [if_neg (text_child_ne_nil p h)] at htext
        split at htext <;> cases htext

/-- A missing folder in a folder that is there is made, or nothing is. -/
theorem makeFolders_child {d : Disk} {p : Path} {name : Text} {folder : Place}
    (h : Path.IsName name) (hleads : d.Leads p folder)
    (hnone : d.found (folder ++ [name]) = none) (hok : (d.makeFolders (p.child name)).2 = none) :
    textFault? (p.child name) = none ∧ isTooLong name = false ∧
      (d.makeFolders (p.child name)).1 = d.put (folder ++ [name]) .folder := by
  obtain ⟨parent, hparent, -⟩ := Path.parent?_child p h
  have hchain : chain ((p.child name).text.length + 1) (p.child name) =
      p.child name :: chain (p.child name).text.length parent := by
    rw [chain, hparent]
  have hnofolder : d.isFolder (p.child name) = false := by
    rw [Bool.eq_false_iff, ne_eq, isFolder_iff]
    intro hfolder
    obtain ⟨-, -, other, hother, hfound⟩ := foundAt_child_eq_some h hfolder
    rw [hother.unique hleads, hnone] at hfound
    cases hfound
  unfold makeFolders at hok ⊢
  rw [hchain] at hok ⊢
  unfold makeFirst at hok ⊢
  cases hmake : d.makeFolder (p.child name) with
  | ok e =>
      obtain ⟨htext, hlong, other, hother, -, rfl⟩ := (makeFolder_child_eq_ok_iff h).mp hmake
      rw [hother.unique hleads]
      exact ⟨htext, hlong, rfl⟩
  | error fault =>
      rw [hmake] at hok
      cases fault with
      | missing =>
          exact absurd hmake (makeFolder_child_ne_missing h hleads)
      | _ =>
          simp [hnofolder] at hok

/-!
## What a place holds

A place holds a list of objects if the objects found at and below it are those of the list, with
their places counted from there.  All else is as on another disk, the base.  Each object that is put
into a folder of the list is added to the list.

* `Holds.put`, `Holds.writeFile`, `Holds.makeFolders`: one more object;
* `Holds.readFile`: what is read elsewhere is read on the base;
* `holds_put_folder`: a new folder holds itself.
-/

/-- A place holds a list of objects; all else is as on the base. -/
structure Holds (d base : Disk) (here : Place) (objects : List (Place × Object)) : Prop where
  working : d.working = base.working
  found : ∀ q, d.found q =
    if here <+: q then objects.lookup (q.drop here.length) else base.found q

namespace Holds

variable {d base : Disk} {here : Place} {objects : List (Place × Object)}

theorem found_append (h : d.Holds base here objects) (q : Place) :
    d.found (here ++ q) = objects.lookup q := by
  rw [h.found, if_pos (List.prefix_append here q), List.drop_left]

theorem found_here (h : d.Holds base here objects) : d.found here = objects.lookup [] := by
  simpa using h.found_append []

/-- Elsewhere the same is found as on the base. -/
theorem found_elsewhere (h : d.Holds base here objects) {q : Place} (hq : ¬here <+: q) :
    d.found q = base.found q := by
  rw [h.found, if_neg hq]

theorem put (h : d.Holds base here objects) {p : Place} {name : Text} {x : Object}
    (hp : objects.lookup p = some .folder) (hname : objects.lookup (p ++ [name]) = none)
    (hx : x.settled = x) :
    (d.put (here ++ p ++ [name]) x).Holds base here (objects ++ [(p ++ [name], x)]) := by
  have hfolder : d.found (here ++ p) = some .folder := by rw [h.found_append, hp]
  have hnone : d.found (here ++ p ++ [name]) = none := by
    rw [List.append_assoc, h.found_append, hname]
  refine ⟨h.working, fun q => ?_⟩
  rw [found_put hfolder hnone, List.lookup_append, h.found q]
  by_cases hq : here <+: q
  · obtain ⟨u, rfl⟩ := hq
    rw [if_pos (List.prefix_append here u), List.drop_left, lookup_cons_eq, List.append_assoc]
    by_cases hu : u = p ++ [name]
    · subst hu
      simp [hname, hx]
    · simp [hu]
  · have hne : q ≠ here ++ p ++ [name] := by
      rintro rfl
      exact hq (List.append_assoc here p [name] ▸ List.prefix_append _ _)
    rw [if_neg hne, if_neg hq, if_neg hq]

theorem grows_put (h : d.Holds base here objects) {p : Place} {name : Text}
    (hp : objects.lookup p = some .folder) (hname : objects.lookup (p ++ [name]) = none)
    (x : Object) : d.Grows (d.put (here ++ p ++ [name]) x) := by
  refine Disk.grows_put ?_ ?_ x
  · rw [h.found_append, hp]
  · rw [List.append_assoc, h.found_append, hname]

theorem readFile (h : d.Holds base here objects) {p : Path}
    (hp : ∀ r ∈ base.trail p, ¬here <+: r) : d.readFile p = base.readFile p :=
  (readFile_congr (start_congr h.working p) fun r hr => (h.found_elsewhere (hp r hr)).symm).symm

/-- A file that is written to a free name in a folder of the list is added to the list. -/
theorem writeFile (h : d.Holds base here objects) {p : Path} {q : Place} {name : Text}
    {data : Bytes} {e : Disk} (hleads : d.Leads p (here ++ q)) (hname : Path.IsName name)
    (hfolder : objects.lookup q = some .folder) (hnone : objects.lookup (q ++ [name]) = none)
    (hwrite : d.writeFile (p.child name) data = .ok e) :
    e.Holds base here (objects ++ [(q ++ [name], .file data false)]) ∧ d.Grows e := by
  have hfree : d.found (here ++ q ++ [name]) = none := by
    rw [List.append_assoc, h.found_append, hnone]
  obtain ⟨-, -, rfl⟩ := (writeFile_child_eq_ok_iff hname hleads hfree).mp hwrite
  exact ⟨h.put hfolder hnone rfl, h.grows_put hfolder hnone _⟩

/-- A folder that is made under a free name in a folder of the list is added to the list, and the
path leads there. -/
theorem makeFolders (h : d.Holds base here objects) {p : Path} {q : Place} {name : Text}
    (hleads : d.Leads p (here ++ q)) (hname : Path.IsName name)
    (hfolder : objects.lookup q = some .folder) (hnone : objects.lookup (q ++ [name]) = none)
    (hok : (d.makeFolders (p.child name)).2 = none) :
    (d.makeFolders (p.child name)).1.Holds base here (objects ++ [(q ++ [name], .folder)]) ∧
      (d.makeFolders (p.child name)).1.Leads (p.child name) (here ++ (q ++ [name])) := by
  have hfree : d.found (here ++ q ++ [name]) = none := by
    rw [List.append_assoc, h.found_append, hnone]
  have hgrows := grows_makeFolders d (p.child name)
  obtain ⟨-, hlong, hput⟩ := makeFolders_child hname hleads hfree hok
  have hholds := h.put (x := .folder) hfolder hnone rfl
  rw [← hput] at hholds
  refine ⟨hholds, (leads_child_iff hname).mpr ⟨hlong, here ++ q, hgrows.leads hleads, ?_, ?_⟩⟩
  · rw [List.append_assoc]
  · rw [hholds.found_append, List.lookup_append, hnone]
    simp

/-- Only what is found matters. -/
theorem of_found (h : d.Holds base here objects) {e : Disk} (hworking : e.working = d.working)
    (hfound : e.found = d.found) : e.Holds base here objects :=
  ⟨hworking.trans h.working, by rw [hfound]; exact h.found⟩

end Holds

/-- A new folder holds itself and nothing else. -/
theorem holds_put_folder {d : Disk} {p : Place} {name : Text} (hp : d.found p = some .folder)
    (hname : d.found (p ++ [name]) = none) :
    (d.put (p ++ [name]) .folder).Holds d (p ++ [name]) [([], .folder)] := by
  refine ⟨rfl, fun q => ?_⟩
  rw [found_put hp hname]
  by_cases hq : q = p ++ [name]
  · subst hq
    rw [if_pos rfl, if_pos (List.prefix_refl _), List.drop_length]
    rfl
  · rw [if_neg hq]
    split
    · next hbelow =>
      rw [found_below hbelow hname]
      obtain ⟨u, rfl⟩ := hbelow
      rw [List.drop_left, lookup_cons_eq, if_neg fun hu => hq (by rw [hu, List.append_nil])]
      rfl
    · rfl

end Disk
end IconAssets
