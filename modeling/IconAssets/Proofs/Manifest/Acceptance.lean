import IconAssets.Manifest
import IconAssets.Proofs.Json.Members

/-!
# Texts that are manifests

A manifest is checked twice, by its schema and by taking the list out of it.  Both want the same of
an object, and the schema lets nothing else pass; so what fits the schema is always decoded.

* `faults_schema_eq_nil_iff`: the values that fit the schema;
* `decode_object_eq_ok_iff`: the objects that are decoded;
* `parse_cases`: the three ways in which reading may end;
* `parse_exact`: exactly which texts are manifests, and how the others are refused.
-/

namespace IconAssets
namespace Manifest

open Json

variable {v : Value} {items : List Value} {members : List (Text × Value)} {texts icons : List Text}
  {raw : Text}

theorem decodeText_eq_ok_iff {t : Text} : decodeText v = .ok t ↔ v = .string t := by
  cases v <;> simp [decodeText]

/-- The texts of an array are those of its items, all of which have to be strings. -/
theorem mapM_decodeText_eq_ok_iff :
    items.mapM decodeText = .ok texts ↔ items = texts.map .string := by
  induction items generalizing texts with
  | nil =>
      cases texts <;> simp [pure, Except.pure]
  | cons v vs ih =>
      rw [List.mapM_cons]
      cases hv : decodeText v with
      | error r =>
          constructor
          · intro h
            cases h
          · intro h
            cases texts with
            | nil =>
                cases h
            | cons t ts =>
                obtain ⟨rfl, -⟩ := List.cons.inj h
                cases hv
      | ok t =>
          obtain rfl := decodeText_eq_ok_iff.mp hv
          constructor
          · intro h
            cases hvs : vs.mapM decodeText with
            | error r =>
                rw [hvs] at h
                cases h
            | ok ts =>
                rw [hvs] at h
                cases h
                rw [ih.mp hvs, List.map_cons]
          · intro h
            cases texts with
            | nil =>
                cases h
            | cons u us =>
                obtain ⟨ht, hvs⟩ := List.cons.inj h
                obtain rfl := Value.string.inj ht
                rw [ih.mpr hvs]
                rfl

theorem decodeTexts_eq_ok_iff : decodeTexts v = .ok texts ↔ v = .array (texts.map .string) := by
  cases v with
  | array items =>
      simp [decodeTexts, mapM_decodeText_eq_ok_iff]
  | _ =>
      simp [decodeTexts]

theorem decode_object_eq_ok_iff :
    decode (.object members) = .ok texts ↔
      Value.member? iconsKey members = some (.array (texts.map .string)) := by
  rw [decode]
  cases Value.member? iconsKey members with
  | none =>
      simp
  | some v =>
      simp [decodeTexts_eq_ok_iff]

/-- The items of an array are made from texts if all of them are of the type of strings. -/
theorem forall_kind_eq_string_iff :
    (∀ v ∈ items, v.kind = .string) ↔ ∃ texts : List Text, items = texts.map .string := by
  constructor
  · intro h
    induction items with
    | nil =>
        exact ⟨[], rfl⟩
    | cons v vs ih =>
        obtain ⟨texts, rfl⟩ := ih fun w hw => h w (List.mem_cons_of_mem _ hw)
        cases v with
        | string t =>
            exact ⟨t :: texts, rfl⟩
        | _ =>
            cases h _ List.mem_cons_self
  · rintro ⟨texts, rfl⟩ v hv
    obtain ⟨t, -, rfl⟩ := List.mem_map.mp hv
    rfl

/-- The part of the schema that is about the list. -/
theorem faults_list_eq_nil_iff :
    (Schema.both (.type .array) (.items (.type .string))).faults v = [] ↔
      ∃ texts : List Text, v = .array (texts.map .string) := by
  cases v with
  | array items =>
      have hkind : (Value.array items).kind = .array := rfl
      simp [hkind, forall_kind_eq_string_iff]
  | _ =>
      simp [Value.kind]

theorem faults_schema_eq_nil_iff :
    schema.faults v = [] ↔ ∃ members, ∃ texts : List Text, v = .object members ∧
      Value.member? iconsKey members = some (.array (texts.map .string)) := by
  cases v with
  | object members =>
      have hkind : (Value.object members).kind = .object := rfl
      rw [schema, Schema.faults_both_eq_nil_iff, Schema.faults_both_eq_nil_iff,
        Schema.faults_property_object_eq_nil_iff]
      simp only [faults_list_eq_nil_iff]
      cases hmember : Value.member? iconsKey members <;> simp [hkind, hmember]
  | _ =>
      simp [schema, Value.kind]

theorem validate_of_fit (h : schema.faults v = []) : validate v = .ok () := by
  unfold validate
  rw [h]

theorem validate_of_unfit (h : schema.faults v ≠ []) :
    validate v = .error (.unfit (schema.faults v)) := by
  unfold validate
  split
  · next hnone =>
    exact absurd hnone h
  · next hsome =>
    rw [hsome]

theorem parse_of_error {fault : Json.Fault} (h : Value.parse raw = .error fault) :
    parse raw = .error (.malformed fault) := by
  unfold parse
  rw [h]
  rfl

theorem parse_of_unfit (h : Value.parse raw = .ok v) (hfaults : schema.faults v ≠ []) :
    parse raw = .error (.unfit (schema.faults v)) := by
  have hvalidate := validate_of_unfit hfaults
  unfold parse
  rw [h]
  change (validate v >>= fun _ => (decode v).mapError .undecodable) = _
  rw [hvalidate]
  rfl

/-- What fits the schema is decoded. -/
theorem parse_of_member (h : Value.parse raw = .ok (.object members))
    (hmember : Value.member? iconsKey members = some (.array (icons.map .string))) :
    parse raw = .ok icons := by
  have hvalidate := validate_of_fit (faults_schema_eq_nil_iff.mpr ⟨members, icons, rfl, hmember⟩)
  have hdecode := decode_object_eq_ok_iff.mpr hmember
  unfold parse
  rw [h]
  change (validate _ >>= fun _ => (decode _).mapError .undecodable) = _
  rw [hvalidate, hdecode]
  rfl

/-- Reading ends in one of three ways. -/
theorem parse_cases (raw : Text) :
    (∃ fault, Value.parse raw = .error fault ∧ parse raw = .error (.malformed fault)) ∨
      (∃ v, Value.parse raw = .ok v ∧ schema.faults v ≠ [] ∧
        parse raw = .error (.unfit (schema.faults v))) ∨
      ∃ members icons, Value.parse raw = .ok (.object members) ∧
        Value.member? iconsKey members = some (.array (icons.map .string)) ∧
          parse raw = .ok icons := by
  cases hvalue : Value.parse raw with
  | error fault =>
      exact .inl ⟨fault, rfl, parse_of_error hvalue⟩
  | ok v =>
      by_cases hfaults : schema.faults v = []
      · obtain ⟨members, icons, rfl, hmember⟩ := faults_schema_eq_nil_iff.mp hfaults
        exact .inr (.inr ⟨members, icons, rfl, hmember, parse_of_member hvalue hmember⟩)
      · exact .inr (.inl ⟨v, rfl, hfaults, parse_of_unfit hvalue hfaults⟩)

/-- **A text is a manifest just if it is an object whose last member `icons` is an array of
strings**, and these strings are the icons, whatever other members there are.  Any other text is
refused because it is not JSON or because its value does not fit the schema; decoding refuses
nothing that fits the schema, and of objects nothing else. -/
theorem parse_exact (raw : Text) :
    (∀ icons, parse raw = .ok icons ↔
      ∃ members written, Value.parse raw = .ok (.object members) ∧
        Value.members? raw = some written ∧
          Value.member? iconsKey written.reverse = some (.array (icons.map .string))) ∧
    (∀ flaw, parse raw = .error flaw ↔
      (∃ fault, Value.parse raw = .error fault ∧ flaw = .malformed fault) ∨
        ∃ v, Value.parse raw = .ok v ∧ schema.faults v ≠ [] ∧ flaw = .unfit (schema.faults v)) ∧
    ∀ v, schema.faults v = [] ↔
      (∃ members, v = .object members) ∧ ∃ icons, decode v = .ok icons := by
  refine ⟨fun icons => ⟨fun h => ?_, ?_⟩, fun flaw => ⟨fun h => ?_, ?_⟩, fun v => ⟨?_, ?_⟩⟩
  · rcases parse_cases raw with ⟨fault, -, hparse⟩ | ⟨v, -, -, hparse⟩ |
      ⟨members, icons', hvalue, hmember, hparse⟩
    · cases h.symm.trans hparse
    · cases h.symm.trans hparse
    · cases h.symm.trans hparse
      obtain ⟨written, hwritten, rfl⟩ := parse_eq_object_iff.mp hvalue
      rw [Value.member?_ofMembers] at hmember
      exact ⟨_, written, hvalue, hwritten, hmember⟩
  · rintro ⟨members, written, hvalue, hwritten, hmember⟩
    obtain ⟨written', hwritten', rfl⟩ := parse_eq_object_iff.mp hvalue
    obtain rfl := Option.some_inj.mp (hwritten.symm.trans hwritten')
    exact parse_of_member hvalue ((Value.member?_ofMembers _ _).trans hmember)
  · rcases parse_cases raw with ⟨fault, hvalue, hparse⟩ | ⟨v, hvalue, hfaults, hparse⟩ |
      ⟨members, icons, -, -, hparse⟩
    · cases h.symm.trans hparse
      exact .inl ⟨fault, hvalue, rfl⟩
    · cases h.symm.trans hparse
      exact .inr ⟨v, hvalue, hfaults, rfl⟩
    · cases h.symm.trans hparse
  · rintro (⟨fault, hvalue, rfl⟩ | ⟨v, hvalue, hfaults, rfl⟩)
    · exact parse_of_error hvalue
    · exact parse_of_unfit hvalue hfaults
  · intro hfaults
    obtain ⟨members, icons, rfl, hmember⟩ := faults_schema_eq_nil_iff.mp hfaults
    exact ⟨⟨members, rfl⟩, icons, decode_object_eq_ok_iff.mpr hmember⟩
  · rintro ⟨⟨members, rfl⟩, icons, hdecode⟩
    exact faults_schema_eq_nil_iff.mpr
      ⟨members, icons, rfl, decode_object_eq_ok_iff.mp hdecode⟩

/-- Decoding alone would take the list from an array too. -/
example : decode (.array [.array [.string "ph.house".toList]]) = .ok ["ph.house".toList] ∧
    schema.faults (.array [.array [.string "ph.house".toList]]) ≠ [] := by
  constructor
  · rfl
  · decide

end Manifest
end IconAssets
