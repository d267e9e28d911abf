import IconAssets.Proofs.Json.Exact

/-!
# Records whose fields may all be missing

Which texts are records of a shape none of whose fields is required: objects in which every field
has one member at most, and arrays that hold the first fields in order.

* `Shape.Adds`: what one member does to a record;
* `Shape.InOrder`: what the items of an array do to a record;
* `Shape.parse_eq_ok_iff`: the documents that are records, and which records they are.
-/

namespace IconAssets
namespace Json
namespace Shape

variable {ρ : Type} {s : Shape ρ} {t rest : Text} {r r' : ρ}

/-- What a member does to a record and to the keys of the fields that have been read. -/
inductive Adds (s : Shape ρ) : ρ × List Text → Text → Text → ρ × List Text → Prop
  | field {f : Field ρ} {r r' : ρ} {keys : List Text} {key v : Text}
    (hfind : s.fields.find? (fun f => f.key = key) = some f) (hnew : key ∉ keys)
    (hread : f.read r v = .ok (r', [])) : Adds s (r, keys) key v (r', key :: keys)
  | other {state : ρ × List Text} {key v : Text}
    (hfind : s.fields.find? (fun f => f.key = key) = none) : Adds s state key v state

/-- Fields are filled in order from as many values as there are. -/
inductive InOrder : List (Field ρ) → ρ → List Text → ρ → Prop
  | nil (fs : List (Field ρ)) (r : ρ) : InOrder fs r [] r
  | cons {f : Field ρ} {fs : List (Field ρ)} {r r' r'' : ρ} {v : Text} {vs : List Text}
    (head : f.read r v = .ok (r', [])) (tail : InOrder fs r' vs r'') :
    InOrder (f :: fs) r (v :: vs) r''

/-- All fields are read in the same way, whatever stands around their values. -/
def AllExact (fields : List (Field ρ)) : Prop := ∀ f ∈ fields, ∀ r, IsExact (f.read r)

/-- No field is required. -/
def AllOptional (fields : List (Field ρ)) : Prop := ∀ f ∈ fields, f.required = false

theorem readsMembers_readMember (h : AllExact s.fields) : ReadsMembers s.readMember s.Adds where
  sound {state key t state' rest} hread := by
    unfold readMember at hread
    split at hread
    · next hfind =>
      obtain ⟨rest', hskip, heq⟩ := map_eq_ok_iff.mp hread
      obtain ⟨rfl, rfl⟩ := Prod.mk.inj heq
      unfold skipMember at hskip
      split at hskip
      · cases hskip
      · next u hcolon =>
        obtain ⟨gap, hgap, rfl⟩ := readColon_eq_ok_iff.mp hcolon
        obtain ⟨i, hi, rfl⟩ := exists_isValue_of_skipValue hskip
        exact ⟨gap, i, hgap, hi, .other hfind, rfl⟩
    · next f hfind =>
      split at hread
      · cases hread
      · next hnew =>
        split at hread
        · cases hread
        · next u hcolon =>
          obtain ⟨gap, hgap, rfl⟩ := readColon_eq_ok_iff.mp hcolon
          split at hread
          · cases hread
          · next r' rest' hvalue =>
            obtain ⟨i, hi, hfield, rfl⟩ := (h f (List.mem_of_find?_eq_some hfind) _).sound hvalue
            cases hread
            exact ⟨gap, i, hgap, hi, .field hfind hnew hfield, rfl⟩
  complete {state key state' gap rest i} hgap hi hadds hrest := by
    have hcolon : readColon (gap ++ ':' :: (i.text ++ rest)) = .ok (i.text ++ rest) :=
      readColon_eq_ok_iff.mpr ⟨gap, hgap, rfl⟩
    unfold readMember
    cases hadds with
    | @field f r r' keys key v hfind hnew hread =>
        have hvalue := (h f (List.mem_of_find?_eq_some hfind) r).complete hi hread hrest
        rw [hfind]
        dsimp only
        rw [if_neg hnew, hcolon]
        dsimp only
        rw [hvalue]
    | other hfind =>
        rw [hfind]
        dsimp only
        unfold skipMember
        rw [hcolon]
        dsimp only
        rw [skipValue_element i hi hrest]
        rfl

theorem readMembers_eq_ok_iff (hexact : AllExact s.fields) (hoptional : AllOptional s.fields) :
    s.readMembers t = .ok (r, rest) ↔
      ∃ (keys : List Text) (members : List Member) (row : Text) (entries : List (Text × Text)),
        IsRow true (members.map Member.text) row ∧ List.Forall₂ Member.Holds members entries ∧
          Steps s.Adds (s.blank, []) entries (r, keys) ∧ t = row ++ '\x7d' :: rest := by
  have hmissing (keys : List Text) :
      s.fields.find? (fun f => f.required && !(f.key ∈ keys)) = none := by
    rw [List.find?_eq_none]
    intro f hf
    simp [hoptional f hf]
  have hread : s.readMembers t = .ok (r, rest) ↔
      ∃ keys, foldMembers s.readMember (s.blank, []) t = .ok ((r, keys), rest) := by
    unfold readMembers
    constructor
    · intro h
      split at h
      · cases h
      · next r' keys rest' hfold =>
        rw [hmissing] at h
        cases h
        exact ⟨keys, hfold⟩
    · rintro ⟨keys, hfold⟩
      rw [hfold]
      dsimp only
      rw [hmissing]
  simp only [hread, foldMembers_eq_ok_iff (readsMembers_readMember hexact)]

theorem closeItems_eq_ok_iff :
    closeItems t = .ok rest ↔ ∃ space, Blank space ∧ t = space ++ ']' :: rest := by
  unfold closeItems
  constructor
  · intro h
    split at h
    · cases h
    · next c u hskip =>
      obtain ⟨space, hspace, -, rfl⟩ := skipSpace_eq_cons_iff.mp hskip
      split at h
      · next hbracket =>
        cases h
        exact ⟨space, hspace, by rw [hbracket]⟩
      · split at h
        · split at h
          · cases h
          · split at h <;> cases h
        · cases h
  · rintro ⟨space, hspace, rfl⟩
    rw [skipSpace_blank hspace (by decide)]
    rfl

/-- At the closing bracket the fields that are left stay as they are. -/
theorem readFields_done {fs : List (Field ρ)} (hoptional : AllOptional fs) (n : Nat) (first : Bool)
    (r : ρ) {space : Text} (hspace : Blank space) :
    s.readFields fs n first r (space ++ ']' :: rest) = .ok (r, rest) := by
  induction fs with
  | nil =>
      rw [readFields, closeItems_eq_ok_iff.mpr ⟨space, hspace, rfl⟩]
      rfl
  | cons f fs ih =>
      obtain ⟨hf, hoptional⟩ := List.forall_mem_cons.mp hoptional
      rw [readFields, nextItem_done hspace]
      dsimp only
      rw [hf, if_neg (by decide), ih hoptional]

theorem exists_row_of_readFields {fs : List (Field ρ)} (hexact : AllExact fs)
    (hoptional : AllOptional fs) {n : Nat} {first : Bool}
    (h : s.readFields fs n first r t = .ok (r', rest)) :
    ∃ (items : List Element) (row : Text), IsRow first (items.map Element.text) row ∧
      (∀ i ∈ items, IsValue i.value) ∧ InOrder fs r (items.map Element.value) r' ∧
        t = row ++ ']' :: rest := by
  induction fs generalizing n first r t with
  | nil =>
      obtain ⟨rest', hclose, heq⟩ := map_eq_ok_iff.mp h
      obtain ⟨rfl, rfl⟩ := Prod.mk.inj heq
      obtain ⟨space, hspace, rfl⟩ := closeItems_eq_ok_iff.mp hclose
      exact ⟨[], space, .nil hspace, by simp, .nil [] r, rfl⟩
  | cons f fs ih =>
      obtain ⟨hread, hexact⟩ := List.forall_mem_cons.mp hexact
      obtain ⟨hf, hoptional⟩ := List.forall_mem_cons.mp hoptional
      rw [readFields] at h
      split at h
      · cases h
      · next u hnext =>
        obtain ⟨space, hspace, rfl⟩ := follows_of_nextItem hnext
        rw [hf, if_neg (by decide), readFields_done hoptional n first r hspace] at h
        cases h
        exact ⟨[], space, .nil hspace, by simp, .nil _ _, rfl⟩
      · next u hnext =>
        obtain ⟨separator, space, hseparator, hspace, rfl⟩ := follows_of_nextItem hnext
        split at h
        · cases h
        · next r'' rest' hvalue =>
          obtain ⟨i, hi, hfield, rfl⟩ := (hread r).sound hvalue
          obtain ⟨items, row, hrow, hvalues, hfill, rfl⟩ := ih hexact hoptional h
          obtain ⟨j, hj, htext⟩ := i.exists_behind hspace
          refine ⟨j :: items, _, .cons hseparator hrow, ?_, ?_, by rw [htext]; simp⟩
          · exact List.forall_mem_cons.mpr ⟨hj ▸ hi, hvalues⟩
          · rw [List.map_cons, hj]
            exact .cons hfield hfill

theorem readFields_row {fs : List (Field ρ)} (hexact : AllExact fs) (hoptional : AllOptional fs)
    {n : Nat} {first : Bool} {items : List Element} {row : Text}
    (hrow : IsRow first (items.map Element.text) row) (hvalues : ∀ i ∈ items, IsValue i.value)
    (hfill : InOrder fs r (items.map Element.value) r') :
    s.readFields fs n first r (row ++ ']' :: rest) = .ok (r', rest) := by
  induction items generalizing fs n first r row with
  | nil =>
      cases hfill
      cases hrow with
      | nil hspace =>
          exact readFields_done hoptional n first _ hspace
  | cons i items ih =>
      cases hfill with
      | @cons f fs _ r'' _ _ _ hread htail =>
          cases hrow with
          | @cons _ separator _ _ row hseparator hrow =>
              obtain ⟨hi, hvalues⟩ := List.forall_mem_cons.mp hvalues
              obtain ⟨hf, hexact⟩ := List.forall_mem_cons.mp hexact
              obtain ⟨-, hoptional⟩ := List.forall_mem_cons.mp hoptional
              obtain ⟨c, u, hstart, hc, hbracket⟩ := hi.starts
              have hnext := nextItem_separator (u := u ++ (row ++ ']' :: rest)) hseparator
                i.blank_space hc hbracket
              have hends : EndsNumber (row ++ ']' :: rest) := hrow.endsNumber (Or.inl rfl)
              have hitem := (hf r).complete (i := ⟨[], i.value, blank_nil⟩) hi hread hends
              have hmore := ih (n := n + 1) hexact hoptional hrow hvalues htail
              simp only [Element.text, hstart, List.nil_append, List.append_assoc,
                List.cons_append] at hitem ⊢
              rw [readFields, hnext]
              dsimp only
              rw [hitem]
              exact hmore

theorem read_eq_ok_iff : s.read t = .ok (r, rest) ↔
    (∃ space u, Blank space ∧ t = space ++ '[' :: u ∧
      s.readFields s.fields 0 true s.blank u = .ok (r, rest)) ∨
    ∃ space u, Blank space ∧ t = space ++ '\x7b' :: u ∧ s.readMembers u = .ok (r, rest) := by
  unfold read
  constructor
  · intro h
    split at h
    · cases h
    · next c u hskip =>
      obtain ⟨space, hspace, -, rfl⟩ := skipSpace_eq_cons_iff.mp hskip
      split_ifs at h with hbracket hbrace
      · exact Or.inl ⟨space, u, hspace, by rw [hbracket], h⟩
      · exact Or.inr ⟨space, u, hspace, by rw [hbrace], h⟩
  · rintro (⟨space, u, hspace, rfl, h⟩ | ⟨space, u, hspace, rfl, h⟩)
    · rw [skipSpace_blank hspace (by decide)]
      exact h
    · rw [skipSpace_blank hspace (by decide)]
      exact h

/-- **The documents that are records of a shape**, all of whose fields may be missing. -/
theorem parse_eq_ok_iff (hexact : AllExact s.fields) (hoptional : AllOptional s.fields) :
    s.parse t = .ok r ↔
      (∃ entries keys, HasMembers t entries ∧ Steps s.Adds (s.blank, []) entries (r, keys)) ∨
        ∃ values, HasItems t values ∧ InOrder s.fields s.blank values r := by
  unfold parse
  simp only [readAll_eq_ok_iff, read_eq_ok_iff, skipSpace_eq_nil_iff]
  constructor
  · rintro ⟨rest, ⟨space, u, hspace, rfl, h⟩ | ⟨space, u, hspace, rfl, h⟩, hrest⟩
    · obtain ⟨items, row, hrow, hvalues, hfill, rfl⟩ :=
        exists_row_of_readFields hexact hoptional h
      exact Or.inr ⟨_, ⟨items, row, ⟨space, rest, hspace, hrest, by simp⟩, hrow, rfl,
        List.forall_mem_map.mpr hvalues⟩, hfill⟩
    · obtain ⟨keys, members, row, entries, hrow, hentries, hsteps, rfl⟩ :=
        (readMembers_eq_ok_iff hexact hoptional).mp h
      exact Or.inl ⟨entries, keys, ⟨members, row, ⟨space, rest, hspace, hrest, by simp⟩, hrow,
        hentries⟩, hsteps⟩
  · rintro (⟨entries, keys, ⟨members, row, ⟨space, rest, hspace, hrest, rfl⟩, hrow, hentries⟩,
      hsteps⟩ | ⟨values, ⟨items, row, ⟨space, rest, hspace, hrest, rfl⟩, hrow, rfl, hvalues⟩,
        hfill⟩)
    · refine ⟨rest, Or.inr ⟨space, row ++ '\x7d' :: rest, hspace, by simp, ?_⟩, hrest⟩
      exact (readMembers_eq_ok_iff hexact hoptional).mpr
        ⟨keys, members, row, entries, hrow, hentries, hsteps, rfl⟩
    · refine ⟨rest, Or.inl ⟨space, row ++ ']' :: rest, hspace, by simp, ?_⟩, hrest⟩
      exact readFields_row hexact hoptional hrow (List.forall_mem_map.mp hvalues) hfill

end Shape
end Json
end IconAssets
