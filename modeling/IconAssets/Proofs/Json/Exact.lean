import IconAssets.Proofs.Json.Values

/-!
# Readers that read values

A reader is exact if all it reads is a value with space in front, and if what it makes of a value
does not depend on what stands around it.  Members of an object are collected by readers of the
same kind, one step for each member.

* `IsExact`: readers of values;
* `isExact_readTextOrNull`: strings that may be missing;
* `foldMembers_eq_ok_iff`: the members of an object, step by step;
* `AtMostOnce`, `Fits`: what the members with one key are read as.
-/

namespace IconAssets
namespace Json

variable {t rest : Text}

/-- What a reader makes of a value, wherever this stands. -/
structure IsExact {α : Type} (read : Reader α) : Prop where
  sound : ∀ {t rest x}, read t = .ok (x, rest) →
    ∃ i : Element, IsValue i.value ∧ read i.value = .ok (x, []) ∧ t = i.text ++ rest
  complete : ∀ {i : Element} {x rest}, IsValue i.value → read i.value = .ok (x, []) →
    EndsNumber rest → read (i.text ++ rest) = .ok (x, rest)

theorem IsExact.map {α β : Type} {read : Reader α} (h : IsExact read) (f : α → β) :
    IsExact fun t => (read t).map fun r => (f r.1, r.2) where
  sound hread := by
    obtain ⟨⟨x, rest⟩, hx, heq⟩ := map_eq_ok_iff.mp hread
    obtain ⟨rfl, rfl⟩ := Prod.mk.inj heq
    obtain ⟨i, hi, hvalue, rfl⟩ := h.sound hx
    exact ⟨i, hi, by rw [hvalue]; rfl, rfl⟩
  complete hi hvalue hrest := by
    obtain ⟨⟨x, left⟩, hx, heq⟩ := map_eq_ok_iff.mp hvalue
    obtain ⟨rfl, rfl⟩ := Prod.mk.inj heq
    rw [h.complete hi hx hrest]
    rfl

/-- A value that is a string or nothing, and the text that it stands for. -/
inductive IsOptionalString : Text → Option Text → Prop
  | null {v : Text} (h : v = "null".toList) : IsOptionalString v none
  | string {v s text : Text} (h : Spells s text) (hv : v = inQuotes s) :
    IsOptionalString v (some text)

theorem IsOptionalString.isValue {v : Text} {x : Option Text} (h : IsOptionalString v x) :
    IsValue v := by
  cases h with
  | null h =>
      exact .word (Or.inl h)
  | string h hv =>
      exact hv ▸ .string h.isString

theorem readText_cons {u : Text} {c : Char} (h : isSpace c = false) {x : Text} :
    readText (c :: u) = .ok (x, rest) ↔ c = '"' ∧ readString u = .ok (x, rest) := by
  unfold readText
  rw [skipSpace_cons_of_not h]
  dsimp only
  split
  · next hquote => rw [and_iff_right hquote]
  · next hquote => simp [hquote]

/-- A string is told by its quote, and the word for nothing by its letter. -/
theorem readTextOrNull_eq_ok_iff {x : Option Text} :
    readTextOrNull t = .ok (x, rest) ↔
      ∃ i : Element, IsOptionalString i.value x ∧ t = i.text ++ rest := by
  unfold readTextOrNull
  constructor
  · intro h
    split at h
    · cases h
    · next c u hskip =>
      obtain ⟨space, hspace, hc, rfl⟩ := skipSpace_eq_cons_iff.mp hskip
      split_ifs at h with hn
      · obtain ⟨rest', hword, heq⟩ := map_eq_ok_iff.mp h
        obtain ⟨rfl, rfl⟩ := Prod.mk.inj heq
        rw [hn, readWord_eq_ok_iff.mp hword]
        exact ⟨⟨space, _, hspace⟩, .null rfl, (List.append_assoc space "null".toList rest').symm⟩
      · obtain ⟨⟨text, rest'⟩, htext, heq⟩ := map_eq_ok_iff.mp h
        obtain ⟨rfl, rfl⟩ := Prod.mk.inj heq
        obtain ⟨rfl, hstring⟩ := (readText_cons hc).mp htext
        obtain ⟨s, hs, rfl⟩ := readString_eq_ok_iff.mp hstring
        exact ⟨⟨space, _, hspace⟩, .string hs rfl, by simp [Element.text]⟩
  · rintro ⟨⟨space, v, hspace⟩, hv, rfl⟩
    dsimp only [Element.text] at hv ⊢
    rw [List.append_assoc]
    cases hv with
    | null h =>
        have hskip : skipSpace (space ++ ("null".toList ++ rest)) = 'n' :: ("ull".toList ++ rest) :=
          skipSpace_blank hspace (by decide) _
        rw [h, hskip]
        dsimp only
        rw [if_pos rfl, readWord_eq_ok_iff.mpr rfl]
        rfl
    | @string s text hs hv =>
        have hskip : skipSpace (space ++ (inQuotes s ++ rest)) = '"' :: (s ++ '"' :: rest) := by
          rw [inQuotes, List.cons_append, List.append_assoc]
          exact skipSpace_blank hspace (by decide) _
        have hread : readText ('"' :: (s ++ '"' :: rest)) = .ok (text, rest) :=
          (readText_cons (by decide)).mpr ⟨rfl, readString_eq_ok_iff.mpr ⟨s, hs, rfl⟩⟩
        rw [hv, hskip]
        dsimp only
        rw [if_neg (by decide), hread]
        rfl

/-- There is no space at the start of a value. -/
theorem Element.value_eq {v : Text} (hv : IsValue v) {j : Element} (h : v = j.text) :
    v = j.value := by
  obtain ⟨c, u, rfl, hc, -⟩ := hv.starts
  obtain ⟨space, w, hspace⟩ := j
  cases space with
  | nil =>
      exact h
  | cons d space =>
      obtain ⟨rfl, -⟩ := List.cons.inj h
      rw [hspace c (by simp)] at hc
      cases hc

theorem readTextOrNull_value {v : Text} (hv : IsValue v) {x : Option Text} :
    readTextOrNull v = .ok (x, []) ↔ IsOptionalString v x := by
  rw [readTextOrNull_eq_ok_iff]
  constructor
  · rintro ⟨i, hi, heq⟩
    rw [List.append_nil] at heq
    exact Element.value_eq hv heq ▸ hi
  · intro h
    exact ⟨⟨[], v, blank_nil⟩, h, (List.append_nil v).symm⟩

theorem isExact_readTextOrNull : IsExact readTextOrNull where
  sound hread := by
    obtain ⟨i, hi, rfl⟩ := readTextOrNull_eq_ok_iff.mp hread
    exact ⟨i, hi.isValue, (readTextOrNull_value hi.isValue).mpr hi, rfl⟩
  complete {i x rest} hi hvalue _ :=
    readTextOrNull_eq_ok_iff.mpr ⟨i, (readTextOrNull_value hi).mp hvalue, rfl⟩

section

variable {σ : Type} {member : σ → Text → Reader σ} {step : σ → Text → Text → σ → Prop}

/-- What a reader does with a member: `step` tells it from what has been collected, the text that
the key stands for, and the value. -/
structure ReadsMembers (member : σ → Text → Reader σ) (step : σ → Text → Text → σ → Prop) :
    Prop where
  sound : ∀ {s key t s' rest}, member s key t = .ok (s', rest) → ∃ (gap : Text) (i : Element),
    Blank gap ∧ IsValue i.value ∧ step s key i.value s' ∧ t = gap ++ ':' :: (i.text ++ rest)
  complete : ∀ {s key s' gap rest} {i : Element}, Blank gap → IsValue i.value →
    step s key i.value s' → EndsNumber rest →
      member s key (gap ++ ':' :: (i.text ++ rest)) = .ok (s', rest)

/-- Members are collected one after the other. -/
inductive Steps (step : σ → Text → Text → σ → Prop) : σ → List (Text × Text) → σ → Prop
  | nil (s : σ) : Steps step s [] s
  | cons {s s' s'' : σ} {key v : Text} {entries : List (Text × Text)} (head : step s key v s')
    (tail : Steps step s' entries s'') : Steps step s ((key, v) :: entries) s''

theorem steps_nil_iff {s s' : σ} : Steps step s [] s' ↔ s' = s := by
  constructor
  · rintro ⟨⟩
    rfl
  · rintro rfl
    exact .nil s'

theorem steps_cons_iff {s s'' : σ} {key v : Text} {entries : List (Text × Text)} :
    Steps step s ((key, v) :: entries) s'' ↔ ∃ s', step s key v s' ∧ Steps step s' entries s'' := by
  constructor
  · rintro (_ | ⟨head, tail⟩)
    exact ⟨_, head, tail⟩
  · rintro ⟨s', head, tail⟩
    exact .cons head tail

theorem exists_row_of_foldMembersFrom (h : ReadsMembers member step) {room : Nat} {first : Bool}
    {s s' : σ} (hfold : foldMembersFrom member room first s t = .ok (s', rest)) :
    ∃ (members : List Member) (row : Text) (entries : List (Text × Text)),
      IsRow first (members.map Member.text) row ∧ List.Forall₂ Member.Holds members entries ∧
        Steps step s entries s' ∧ t = row ++ '\x7d' :: rest := by
  induction room generalizing first s t with
  | zero =>
      cases hfold
  | succ room ih =>
      rw [foldMembersFrom] at hfold
      split at hfold
      · cases hfold
      · next u hnext =>
        cases hfold
        obtain ⟨space, hspace, rfl⟩ := follows_of_nextMember hnext
        exact ⟨[], space, [], .nil hspace, .nil, .nil _, rfl⟩
      · next u hnext =>
        obtain ⟨separator, space, hseparator, hspace, rfl⟩ := follows_of_nextMember hnext
        split at hfold
        · cases hfold
        · next text v hstring =>
          obtain ⟨key, hkey, rfl⟩ := readString_eq_ok_iff.mp hstring
          split at hfold
          · cases hfold
          · next s'' rest' hmember =>
            obtain ⟨gap, i, hgap, hi, hstep, rfl⟩ := h.sound hmember
            obtain ⟨members, row, entries, hrow, hentries, hsteps, rfl⟩ := ih hfold
            exact ⟨⟨space, key, gap, i, hspace, hgap⟩ :: members, _, (text, i.value) :: entries,
              .cons hseparator hrow, .cons ⟨hkey, rfl, hi⟩ hentries, .cons hstep hsteps,
              by simp [Member.text, inQuotes]⟩

theorem foldMembersFrom_row (h : ReadsMembers member step) {room : Nat} {first : Bool} {s s' : σ}
    {members : List Member} {row : Text} {entries : List (Text × Text)}
    (hrow : IsRow first (members.map Member.text) row)
    (hentries : List.Forall₂ Member.Holds members entries) (hsteps : Steps step s entries s')
    (hroom : row.length < room) :
    foldMembersFrom member room first s (row ++ '\x7d' :: rest) = .ok (s', rest) := by
  induction hentries generalizing room first s row with
  | nil =>
      obtain ⟨room, rfl⟩ := Nat.exists_eq_succ_of_ne_zero (by omega : room ≠ 0)
      cases hsteps
      cases hrow with
      | nil hspace =>
          rw [foldMembersFrom, nextMember_done hspace]
  | @cons m entry members entries hm _ ih =>
      obtain ⟨room, rfl⟩ := Nat.exists_eq_succ_of_ne_zero (by omega : room ≠ 0)
      obtain ⟨text, v⟩ := entry
      obtain ⟨hkey, rfl, hvalue⟩ := hm
      -- A member is longer than nothing, so that there is room for what is left of the row.
      cases hsteps with
      | @cons _ s'' _ _ _ _ hstep hsteps =>
          cases hrow with
          | @cons _ separator _ _ row hseparator htail =>
              simp only [List.length_append, Member.text, List.length_cons, inQuotes] at hroom
              have hstring : readString (m.key ++ '"' :: (m.gap ++ ':' :: (m.item.text ++
                  (row ++ '\x7d' :: rest)))) = .ok (text, m.gap ++ ':' :: (m.item.text ++
                    (row ++ '\x7d' :: rest))) :=
                readString_eq_ok_iff.mpr ⟨m.key, hkey, rfl⟩
              have hends : EndsNumber (row ++ '\x7d' :: rest) := htail.endsNumber (Or.inr rfl)
              have hmember := h.complete m.blank_gap hvalue hstep hends
              have hless : row.length < room := by omega
              have hmore := ih htail hsteps hless
              have happend : separator ++ (m.text ++ row) ++ '\x7d' :: rest =
                  separator ++ (m.space ++ '"' :: (m.key ++ '"' :: (m.gap ++ ':' ::
                    (m.item.text ++ (row ++ '\x7d' :: rest))))) := by
                simp [Member.text, inQuotes]
              rw [happend, foldMembersFrom, nextMember_separator hseparator m.blank_space]
              dsimp only
              rw [hstring]
              dsimp only
              rw [hmember]
              exact hmore

/-- **The members of an object are collected step by step**, whatever their values look like. -/
theorem foldMembers_eq_ok_iff (h : ReadsMembers member step) {s s' : σ} :
    foldMembers member s t = .ok (s', rest) ↔
      ∃ (members : List Member) (row : Text) (entries : List (Text × Text)),
        IsRow true (members.map Member.text) row ∧ List.Forall₂ Member.Holds members entries ∧
          Steps step s entries s' ∧ t = row ++ '\x7d' :: rest := by
  constructor
  · intro hfold
    exact exists_row_of_foldMembersFrom h hfold
  · rintro ⟨members, row, entries, hrow, hentries, hsteps, rfl⟩
    refine foldMembersFrom_row h hrow hentries hsteps ?_
    rw [List.length_append]
    omega

end

/-- The values of the members with a key. -/
def valuesOf (key : Text) (entries : List (Text × Text)) : List Text :=
  (entries.filter fun e => e.1 = key).map Prod.snd

/-- Something that may be missing, and that is a string or nothing where it stands. -/
inductive AtMostOnce : List Text → Option Text → Prop
  | missing : AtMostOnce [] none
  | once {v : Text} {x : Option Text} (h : IsOptionalString v x) : AtMostOnce [v] x

section

variable {key other : Text} {keys : List Text} {entries : List (Text × Text)} {v : Text}
  {vs : List Text} {x y : Option Text}

theorem atMostOnce_nil_iff : AtMostOnce [] x ↔ x = none := by
  constructor
  · rintro ⟨⟩
    rfl
  · rintro rfl
    exact .missing

theorem atMostOnce_cons_iff : AtMostOnce (v :: vs) x ↔ vs = [] ∧ IsOptionalString v x := by
  constructor
  · rintro (_ | h)
    exact ⟨rfl, h⟩
  · rintro ⟨rfl, h⟩
    exact .once h

theorem valuesOf_nil : valuesOf key [] = [] := rfl

theorem valuesOf_cons_self : valuesOf key ((key, v) :: entries) = v :: valuesOf key entries := by
  simp [valuesOf]

theorem valuesOf_cons_of_ne (h : other ≠ key) :
    valuesOf key ((other, v) :: entries) = valuesOf key entries := by
  simp [valuesOf, h]

/-- What the members with a key do to its field: it stays as it is, or it is read, but not twice. -/
def Fits (key : Text) (keys : List Text) (x : Option Text) (vs : List Text) (y : Option Text) :
    Prop :=
  (vs = [] ∧ y = x) ∨ key ∉ keys ∧ ∃ v, vs = [v] ∧ IsOptionalString v y

theorem fits_nil : Fits key keys x [] y ↔ y = x := by
  simp [Fits]

theorem fits_cons : Fits key keys x (v :: vs) y ↔ key ∉ keys ∧ vs = [] ∧ IsOptionalString v y := by
  simp [Fits]

theorem fits_of_mem (h : key ∈ keys) : Fits key keys x vs y ↔ vs = [] ∧ y = x := by
  simp [Fits, h]

theorem fits_cons_of_ne (h : other ≠ key) :
    Fits key (other :: keys) x vs y ↔ Fits key keys x vs y := by
  simp [Fits, Ne.symm h]

theorem fits_none_iff : Fits key [] none vs y ↔ AtMostOnce vs y := by
  constructor
  · rintro (⟨rfl, rfl⟩ | ⟨-, v, rfl, h⟩)
    · exact .missing
    · exact .once h
  · rintro (- | h)
    · exact Or.inl ⟨rfl, rfl⟩
    · exact Or.inr ⟨List.not_mem_nil, _, rfl, h⟩

end

end Json
end IconAssets
