import IconAssets.Catalog.Generate
import IconAssets.Document
import IconAssets.Proofs.Disk.Agreement
import IconAssets.Proofs.Json.Indented
import IconAssets.Proofs.Manifest.Acceptance
import IconAssets.Proofs.Run

/-!
# Documents are read back

What is written as a contents document or as a manifest is read back as it was, from its text and
from a file that holds it.  A file that was written holds its text unless its path leads to a device,
which keeps nothing.

* `Catalog.EntryContents.parse_print`: contents documents;
* `Manifest.parse_print`: manifests;
* `Run.written_of_change`: what a step that writes a file leaves there;
* `Catalog.firstFilename?_load_writeContents`: contents documents in files.
-/

namespace IconAssets

namespace Json

theorem reads_string_indented (t : Text) (depth : Nat) :
    Reads readText ((Value.string t).indented depth) t := by
  rw [Value.indented]
  exact reads_string t

theorem reads_word32_indented (n : UInt32) (depth : Nat) :
    Reads readWord32 ((Value.number (.integer n.toNat)).indented depth) n := by
  rw [Value.indented]
  exact reads_word32 n

theorem reads_string_value (inner : Option (Reader Value)) (t : Text) :
    Reads (readValueWith inner) (printString t) (.string t) where
  starts := (reads_string t).starts
  reads space rest hspace hrest := by
    unfold readValueWith
    rw [List.append_assoc, printString, List.cons_append, List.cons_append,
      skipSpace_blank hspace (by decide)]
    dsimp only
    rw [if_neg (by decide), if_neg (by decide), if_neg (by decide), if_pos rfl, List.append_assoc]
    simp only [List.singleton_append]
    rw [readString_print]
    rfl

/-- A printed array is read back as a value if its items are. -/
theorem reads_array_value {value : Reader Value} {depth : Nat} {vs : List Value}
    (h : ∀ v ∈ vs, Reads value (v.indented (depth + 1)) v) :
    Reads (readValueWith (some value)) ((Value.array vs).indented depth) (.array vs) where
  starts := ⟨'[', indentedItems depth vs, by rw [Value.indented], by decide, by decide⟩
  reads space rest hspace _ := by
    have hitems : List.Forall₂ (fun v x => Reads value (v.indented (depth + 1)) x) vs vs :=
      List.forall₂_same.mpr h
    unfold readValueWith
    rw [Value.indented, List.append_assoc, List.cons_append, skipSpace_blank hspace (by decide)]
    dsimp only
    rw [if_neg (by decide), if_neg (by decide), if_neg (by decide), if_neg (by decide),
      if_neg (by decide), if_pos rfl, readItems_indented hitems]
    rfl

/-- A printed object with a single member is read back as a value if this is. -/
theorem reads_object_value {value : Reader Value} {depth : Nat} {key : Text} {v : Value}
    (h : Reads value (v.indented (depth + 1)) v) :
    Reads (readValueWith (some value)) ((Value.object [(key, v)]).indented depth)
      (.object [(key, v)]) where
  starts := ⟨'\x7b', indentedMembers depth [(key, v)], by rw [Value.indented], by decide,
    by decide⟩
  reads space rest hspace _ := by
    have hmember : Collects (readMember value) depth [] [(key, v)] [(key, v)] := by
      refine Collects.cons (fun rest hrest => ?_) (Collects.nil _)
      have hvalue := h.reads [' '] rest (by simp [Blank, isSpace]) hrest
      rw [List.singleton_append, List.cons_append] at hvalue
      unfold readMember
      rw [List.append_assoc, readColon_cons]
      dsimp only
      rw [hvalue]
      rfl
    unfold readValueWith
    rw [Value.indented, List.append_assoc, List.cons_append, skipSpace_blank hspace (by decide)]
    dsimp only
    rw [if_neg (by decide), if_neg (by decide), if_neg (by decide), if_neg (by decide),
      if_neg (by decide), if_neg (by decide), if_pos rfl, foldMembers_indented hmember]
    rfl

end Json

open Json

namespace Catalog

theorem Info.reads_indented (i : Info) (depth : Nat) :
    Reads Info.shape.read (i.toJson.indented depth) i := by
  have hauthor := reads_string_indented i.author (depth + 1)
  have hversion := reads_word32_indented i.version (depth + 1)
  exact Shape.reads_record (by decide)
    (.cons (Field.fills_of_reads (fun t => { Info.shape.blank with author := t }) hauthor
      fun _ => rfl)
      (.cons (Field.fills_of_reads (fun n => { i with version := n }) hversion fun _ => rfl)
        (.nil _)))

theorem ImageRecord.reads_indented (r : ImageRecord) (depth : Nat) :
    Reads ImageRecord.shape.read (r.toJson.indented depth) r := by
  have hfilename := reads_string_indented r.filename (depth + 1)
  have hidiom := reads_string_indented r.idiom (depth + 1)
  exact Shape.reads_record (by decide)
    (.cons (Field.fills_of_reads (fun t => { ImageRecord.shape.blank with filename := t }) hfilename
      fun _ => rfl)
      (.cons (Field.fills_of_reads (fun t => { r with idiom := t }) hidiom fun _ => rfl) (.nil _)))

theorem ImageProperties.reads_indented (p : ImageProperties) (depth : Nat) :
    Reads ImageProperties.shape.read (p.toJson.indented depth) p := by
  have hintent := reads_string_indented p.templateRenderingIntent (depth + 1)
  exact Shape.reads_record (by decide)
    (.cons (Field.fills_of_reads (fun t => ⟨t⟩) hintent fun _ => rfl) (.nil _))

namespace EntryContents

/-- The contents document of an image set is read back. -/
theorem reads_indented (c : EntryContents) (depth : Nat) :
    Reads EntryContents.shape.read (c.toJson.indented depth) c := by
  have himages : List.Forall₂
      (fun v x => Reads ImageRecord.shape.read (v.indented (depth + 1 + 1)) x)
      (c.images.map ImageRecord.toJson) c.images := by
    rw [List.forall₂_map_left_iff]
    exact List.forall₂_same.mpr fun r _ => r.reads_indented _
  exact Shape.reads_record (by decide)
    (.cons (Field.fills_of_reads (fun images => { shape.blank with images := images })
      (reads_list himages) fun _ => rfl)
      (.cons (Field.fills_of_reads
        (fun i => { c with info := i, properties := shape.blank.properties })
        (c.info.reads_indented _) fun _ => rfl)
        (.cons (Field.fills_of_reads (fun p => { c with properties := p })
          (c.properties.reads_indented _) fun _ => rfl) (.nil _))))

/-- **A written contents document is read back as it was**, whatever the texts and numbers in
it. -/
theorem parse_print (c : EntryContents) : parse c.print = .ok c :=
  readAll_of_reads (c.reads_indented 0)

/-- A contents document is read from a file that holds it. -/
theorem load_of_readFile {d : Disk} {p : Path} {c : EntryContents}
    (h : d.readFile p = .ok (Utf8.encode c.print)) : load d p = .ok c := by
  unfold load Disk.load Disk.readText
  rw [h]
  simp [parse_print]

end EntryContents
end Catalog

namespace Manifest

/-- **A written manifest is read back as it was.** -/
theorem parse_print (icons : List Text) : parse (print icons) = .ok icons := by
  have hread : Value.parse (print icons) = .ok (toJson icons) := by
    refine readAll_of_reads (reads_object_value (reads_array_value fun v hv => ?_))
    obtain ⟨t, -, rfl⟩ := List.mem_map.mp hv
    rw [Value.indented]
    exact reads_string_value _ t
  exact parse_of_member hread (by simp [Value.member?])

/-- A manifest is read from a file that holds it. -/
theorem load_of_readFile {d : Disk} {p : Path} {icons : List Text}
    (h : d.readFile p = .ok (Utf8.encode (print icons))) : load d p = .ok icons := by
  unfold load Disk.load Disk.readText
  rw [h]
  simp [parse_print]

end Manifest

/-!
## Contents documents in files
-/

namespace Run

/-- A step that has written a file leaves it there with its data, unless the path leads to a
device. -/
theorem written_of_change {s : Step} {p : Path} {data : Bytes} {w w' : World} {u : Unit}
    (hdevice : ∀ x, w.disk.found (w.disk.target p) ≠ some (.device x))
    (h : change s (fun d => d.writeFile p data) w = .ok u w') :
    Disk.Written w.disk w'.disk p data := by
  obtain ⟨d, hd, rfl⟩ := change_eq_ok_iff.mp h
  have hwritten : Disk.Written w.disk d p data :=
    Disk.writeFile_eq_ok hd fun x hx => hdevice x (Disk.found_target_of_foundAt hx)
  exact hwritten.of_found (World.working_withDisk w d) (World.found_withDisk w d)

end Run

namespace Catalog

open EntryContents Run

/-- A contents document is read from the file that it was written to. -/
theorem load_writeContents {c : EntryContents} {p : Path} {w w' : World} {u : Unit}
    (hdevice : ∀ x, w.disk.found (w.disk.target p) ≠ some (.device x))
    (h : writeContents p c.print w = .ok u w') : load w'.disk p = .ok c :=
  load_of_readFile (written_of_change hdevice h).readFile

end Catalog
end IconAssets
