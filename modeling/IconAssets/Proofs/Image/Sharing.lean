import IconAssets.Proofs.Image.Template

/-!
# Icons with a common image

A Phosphor icon has its image for itself: the weight is the name of a folder, and in this folder the
base name can be read off the name of the file.  Ionicons files have hyphens for the dots of their
icons, so two of these icons share an image if their canonical names differ in nothing but hyphens and
dots.

All this is about base names without slashes.  Two images of one provider then have the same path as
soon as the components of the paths are the same.

* `below_alike_iff`: the folder and the name of an image, read off its path;
* `hyphened_assetName`: the name of an Ionicons file, read off the canonical name of its icon;
* `path?_alike_iff`: which icons have a common image.
-/

namespace IconAssets

namespace Text

/-- The text with hyphens for its dots. -/
def hyphened (t : Text) : Text := t.map fun c => if c = '.' then '-' else c

@[simp] theorem hyphened_append (t u : Text) : hyphened (t ++ u) = hyphened t ++ hyphened u :=
  List.map_append

@[simp] theorem hyphened_dot_cons (t : Text) : hyphened ('.' :: t) = '-' :: hyphened t := rfl

theorem hyphened_of_dot_not_mem {t : Text} (h : '.' ∉ t) : hyphened t = t := by
  refine (List.map_congr_left fun c hc => ?_).trans (List.map_id t)
  have hother : c ≠ '.' := by
    rintro rfl
    exact h hc
  rw [if_neg hother, id]

end Text

/-- Paths with the same components. -/
def Path.Alike (p q : Path) : Prop := p.anchor = q.anchor ∧ p.moves = q.moves

theorem Weight.name_injective {v w : Weight} (h : v.name = w.name) : v = w := by
  cases v <;> cases w <;> first | rfl | exact absurd h (by decide)

namespace Image

variable {root : Path} {i j : Identifier}

/-- The folders between the directory of a provider and the image of an icon. -/
def folders (icon : Identifier) : List Text :=
  match icon.modifier with
  | .weight w => [w.name]
  | .variant _ => []

theorem below_eq_foldl (root : Path) (icon : Identifier) :
    below root icon = ((folders icon).foldl Path.child root).child (fileName icon) := by
  unfold below folders
  cases icon.modifier <;> rfl

/-- The path of an image goes through its folders and ends in its name. -/
theorem moves_below (h : '/' ∉ i.baseName) :
    (below root i).moves = root.moves ++ folders i ++ [fileName i] := by
  rw [below_eq_foldl, Path.moves_child _ (isName_fileName h)]
  unfold folders
  cases i.modifier with
  | weight w =>
      rw [List.foldl_cons, List.foldl_nil, Path.moves_child _ (isName_weight w)]
  | variant v =>
      rw [List.foldl_nil, List.append_nil]

/-- The folders and the name of an image can be read off its path. -/
theorem below_alike_iff (hi : '/' ∉ i.baseName) (hj : '/' ∉ j.baseName) :
    (below root i).Alike (below root j) ↔ folders i = folders j ∧ fileName i = fileName j := by
  constructor
  · rintro ⟨-, hmoves⟩
    rw [moves_below hi, moves_below hj] at hmoves
    obtain ⟨hfront, hname⟩ := List.append_inj' hmoves rfl
    exact ⟨List.append_cancel_left hfront, List.singleton_inj.mp hname⟩
  · rintro ⟨hfolders, hname⟩
    rw [below_eq_foldl, below_eq_foldl, hfolders, hname]
    exact ⟨rfl, rfl⟩

/-- Images whose paths have the same components have the same path. -/
theorem below_eq_iff_alike (hi : '/' ∉ i.baseName) (hj : '/' ∉ j.baseName) :
    below root i = below root j ↔ (below root i).Alike (below root j) := by
  constructor
  · intro h
    rw [h]
    exact ⟨rfl, rfl⟩
  · intro h
    obtain ⟨hfolders, hname⟩ := (below_alike_iff hi hj).mp h
    rw [below_eq_foldl, below_eq_foldl, hfolders, hname]

/-- In a folder for a weight, the base name can be read off the name of the file. -/
theorem eq_of_folders_eq (hi : i.provider = .phosphor) (hj : j.provider = .phosphor)
    (hfolders : folders i = folders j) (hname : fileName i = fileName j) : i = j := by
  obtain ⟨base, v | v⟩ := i
  · obtain ⟨other, w | w⟩ := j
    · have hweight : v.name = w.name := List.singleton_inj.mp hfolders
      obtain rfl := Weight.name_injective hweight
      unfold fileName at hname
      have hbase : base = other := List.append_cancel_right (List.append_cancel_right hname)
      rw [hbase]
    · cases hj
  · cases hi

theorem folders_of_ionicons (h : i.provider = .ionicons) : folders i = [] := by
  obtain ⟨base, w | v⟩ := i
  · cases h
  · rfl

theorem fileStem_of_ionicons (h : i.provider = .ionicons) :
    i.fileStem = Text.hyphened i.baseName := by
  rw [Identifier.fileStem, h]
  rfl

/-- An Ionicons file is named like its icon, with hyphens and without the code of the provider. -/
theorem hyphened_assetName (h : i.provider = .ionicons) :
    Text.hyphened i.assetName ++ ".svg".toList = "ion-".toList ++ fileName i := by
  have hname := Text.hyphened_of_dot_not_mem i.modifier.dot_not_mem_name
  have hcode : "ion-".toList = Text.hyphened Provider.ionicons.code ++ ['-'] := by decide
  rw [Identifier.assetName, fileName, fileStem_of_ionicons h, h, hcode]
  split <;> simp [hname]

theorem fileName_eq_iff (hi : i.provider = .ionicons) (hj : j.provider = .ionicons) :
    fileName i = fileName j ↔ Text.hyphened i.assetName = Text.hyphened j.assetName := by
  rw [← List.append_right_inj "ion-".toList, ← hyphened_assetName hi, ← hyphened_assetName hj,
    List.append_left_inj]

/-- **Which icons of a provider have a common image**, if there is no slash in their base names: in
Phosphor none, and in Ionicons those whose canonical names differ in nothing but hyphens and dots.
Paths of images with the same components are the same. -/
theorem path?_alike_iff {roots : Roots} {p q : Path} (hi : '/' ∉ i.baseName)
    (hj : '/' ∉ j.baseName) (hprovider : i.provider = j.provider) (hp : path? roots i = some p)
    (hq : path? roots j = some q) :
    (p.Alike q ↔ p = q) ∧ (i.provider = .phosphor → (p = q ↔ i = j)) ∧
      (i.provider = .ionicons →
        (p = q ↔ Text.hyphened i.assetName = Text.hyphened j.assetName)) := by
  obtain ⟨root, hroot, rfl⟩ := Option.map_eq_some_iff.mp hp
  obtain ⟨root', hroot', rfl⟩ := Option.map_eq_some_iff.mp hq
  obtain rfl : root = root' := by
    rw [← Option.some_inj, ← hroot, ← hroot', hprovider]
  have halike : below root i = below root j ↔ (below root i).Alike (below root j) :=
    below_eq_iff_alike hi hj
  refine ⟨halike.symm, fun hphosphor => ?_, fun hionicons => ?_⟩
  · constructor
    · intro h
      obtain ⟨hfolders, hname⟩ := (below_alike_iff hi hj).mp (halike.mp h)
      exact eq_of_folders_eq hphosphor (hprovider ▸ hphosphor) hfolders hname
    · rintro rfl
      rfl
  · have hionicons' : j.provider = .ionicons := hprovider ▸ hionicons
    rw [halike, below_alike_iff hi hj, fileName_eq_iff hionicons hionicons',
      folders_of_ionicons hionicons, folders_of_ionicons hionicons']
    exact and_iff_right rfl

/-- The outline variant of `ion.home` has the image of the filled `ion.home-outline`. -/
theorem path?_alike_iff_outline :
    path? ⟨none, some ⟨"icons".toList⟩⟩ ⟨"home".toList, .variant .outline⟩ =
        some ⟨"icons/home-outline.svg".toList⟩ ∧
      path? ⟨none, some ⟨"icons".toList⟩⟩ ⟨"home-outline".toList, .variant .filled⟩ =
        some ⟨"icons/home-outline.svg".toList⟩ ∧
      Text.hyphened (Identifier.assetName ⟨"home".toList, .variant .outline⟩) =
        Text.hyphened (Identifier.assetName ⟨"home-outline".toList, .variant .filled⟩) := by
  have hp : path? ⟨none, some ⟨"icons".toList⟩⟩ ⟨"home".toList, .variant .outline⟩ =
      some ⟨"icons/home-outline.svg".toList⟩ := by decide
  have hq : path? ⟨none, some ⟨"icons".toList⟩⟩ ⟨"home-outline".toList, .variant .filled⟩ =
      some ⟨"icons/home-outline.svg".toList⟩ := by decide
  exact ⟨hp, hq, ((path?_alike_iff (by decide) (by decide) rfl hp hq).2.2 rfl).mp rfl⟩

end Image
end IconAssets
