import IconAssets.Proofs.Json.Rows
import IconAssets.Proofs.Json.Skipping

/-!
# Values that nobody wants

A value that is skipped is any value of the grammar, however deep: what is skipped is a value, and
every value is skipped up to what ends a number.

Values, items and members are skipped by three functions that call each other with less fuel; what
is shown of one of them with some fuel rests on the others with less.

* `exists_isValue_of_skipValue`: what is skipped is a value;
* `skipValue_element`: values are skipped.
-/

namespace IconAssets
namespace Json

variable {t rest : Text}

theorem readWord_eq_ok_iff {word : Text} : readWord word t = .ok rest ↔ t = word ++ rest := by
  induction word generalizing t with
  | nil =>
      simp [readWord]
  | cons w ws ih =>
      cases t with
      | nil =>
          simp [readWord]
      | cons c t =>
          rw [readWord, List.cons_append, List.cons.injEq]
          split
          · next h => rw [ih, and_iff_right h]
          · next h => simp [h]

/-- Space may be added in front of an item. -/
theorem Element.exists_behind (i : Element) {space : Text} (hspace : Blank space) :
    ∃ j : Element, j.value = i.value ∧ j.text = space ++ i.text :=
  ⟨⟨space ++ i.space, i.value, List.forall_mem_append.mpr ⟨hspace, i.blank_space⟩⟩, rfl,
    List.append_assoc _ _ _⟩

section

/-- What is skipped is a value with space in front. -/
def SkipsValues (skip : Text → Except Stop Text) : Prop :=
  ∀ t rest, skip t = .ok rest → ∃ i : Element, IsValue i.value ∧ t = i.text ++ rest

/-- What is skipped are the items of an array and the closing bracket. -/
def SkipsItems (skip : Bool → Text → Except Stop Text) : Prop :=
  ∀ first t rest, skip first t = .ok rest → ∃ (items : List Element) (row : Text),
    IsRow first (items.map Element.text) row ∧ (∀ i ∈ items, IsValue i.value) ∧
      t = row ++ ']' :: rest

/-- What is skipped are the members of an object and the closing brace. -/
def SkipsMembers (skip : Bool → Text → Except Stop Text) : Prop :=
  ∀ first t rest, skip first t = .ok rest → ∃ (members : List Member) (row : Text),
    IsRow first (members.map Member.text) row ∧
      (∀ m ∈ members, IsString m.key ∧ IsValue m.item.value) ∧ t = row ++ '\x7d' :: rest

variable {fuel : Nat}

theorem skipsValues_succ (hitems : SkipsItems (skipItemsFrom fuel))
    (hmembers : SkipsMembers (skipMembersFrom fuel)) : SkipsValues (skipValueFrom (fuel + 1)) := by
  intro t rest h
  rw [skipValueFrom] at h
  split at h
  · cases h
  · next c u hskip =>
    obtain ⟨space, hspace, -, rfl⟩ := skipSpace_eq_cons_iff.mp hskip
    -- It is enough to find the value behind the space.
    suffices hvalue : ∃ v, IsValue v ∧ c :: u = v ++ rest by
      obtain ⟨v, hv, heq⟩ := hvalue
      exact ⟨⟨space, v, hspace⟩, hv, by rw [heq, Element.text, List.append_assoc]⟩
    split_ifs at h with hn ht hf hquote hnumber hbracket hbrace
    · exact ⟨_, .word (Or.inl rfl), by rw [hn, readWord_eq_ok_iff.mp h]; rfl⟩
    · exact ⟨_, .word (Or.inr (Or.inl rfl)), by rw [ht, readWord_eq_ok_iff.mp h]; rfl⟩
    · exact ⟨_, .word (Or.inr (Or.inr rfl)), by rw [hf, readWord_eq_ok_iff.mp h]; rfl⟩
    · obtain ⟨s, hs, rfl⟩ := skipString_eq_ok_iff.mp h
      exact ⟨_, .string hs, by rw [hquote, inQuotes]; simp⟩
    · obtain ⟨n, hn, heq⟩ := exists_isNumber_of_skipNumber h
      exact ⟨n, .number hn, heq⟩
    · obtain ⟨items, row, hrow, hitems, rfl⟩ := hitems _ _ _ h
      exact ⟨_, .array hrow hitems, by rw [hbracket]; simp⟩
    · obtain ⟨members, row, hrow, hmembers, rfl⟩ := hmembers _ _ _ h
      exact ⟨_, .object hrow (fun m hm => (hmembers m hm).1) fun m hm => (hmembers m hm).2,
        by rw [hbrace]; simp⟩

theorem skipsItems_succ (hvalues : SkipsValues (skipValueFrom fuel))
    (hitems : SkipsItems (skipItemsFrom fuel)) : SkipsItems (skipItemsFrom (fuel + 1)) := by
  intro first t rest h
  rw [skipItemsFrom] at h
  split at h
  · cases h
  · next u hnext =>
    cases h
    obtain ⟨space, hspace, rfl⟩ := follows_of_nextSkippedItem hnext
    exact ⟨[], space, .nil hspace, by simp, rfl⟩
  · next u hnext =>
    obtain ⟨separator, space, hseparator, hspace, rfl⟩ := follows_of_nextSkippedItem hnext
    split at h
    · cases h
    · next v hvalue =>
      obtain ⟨i, hi, rfl⟩ := hvalues _ _ hvalue
      obtain ⟨items, row, hrow, hvalues, rfl⟩ := hitems _ _ _ h
      obtain ⟨j, hj, htext⟩ := i.exists_behind hspace
      refine ⟨j :: items, _, .cons hseparator hrow, ?_, by rw [htext]; simp⟩
      exact List.forall_mem_cons.mpr ⟨hj ▸ hi, hvalues⟩

theorem skipsMembers_succ (hvalues : SkipsValues (skipValueFrom fuel))
    (hmembers : SkipsMembers (skipMembersFrom fuel)) :
    SkipsMembers (skipMembersFrom (fuel + 1)) := by
  intro first t rest h
  rw [skipMembersFrom] at h
  split at h
  · cases h
  · next u hnext =>
    cases h
    obtain ⟨space, hspace, rfl⟩ := follows_of_nextSkippedMember hnext
    exact ⟨[], space, .nil hspace, by simp, rfl⟩
  · next u hnext =>
    obtain ⟨separator, space, hseparator, hspace, rfl⟩ := follows_of_nextSkippedMember hnext
    split at h
    · cases h
    · next v hstring =>
      obtain ⟨key, hkey, rfl⟩ := skipString_eq_ok_iff.mp hstring
      split at h
      · cases h
      · next w hmember =>
        unfold skipMember at hmember
        split at hmember
        · cases hmember
        · next x hcolon =>
          obtain ⟨gap, hgap, rfl⟩ := readColon_eq_ok_iff.mp hcolon
          obtain ⟨i, hi, rfl⟩ := hvalues _ _ hmember
          obtain ⟨members, row, hrow, hvalues, rfl⟩ := hmembers _ _ _ h
          refine ⟨⟨space, key, gap, i, hspace, hgap⟩ :: members, _, .cons hseparator hrow, ?_,
            by simp [Member.text, inQuotes]⟩
          exact List.forall_mem_cons.mpr ⟨⟨hkey, hi⟩, hvalues⟩

theorem skips (fuel : Nat) : SkipsValues (skipValueFrom fuel) ∧ SkipsItems (skipItemsFrom fuel) ∧
    SkipsMembers (skipMembersFrom fuel) := by
  induction fuel with
  | zero =>
      refine ⟨fun t rest h => ?_, fun first t rest h => ?_, fun first t rest h => ?_⟩ <;> cases h
  | succ fuel ih =>
      obtain ⟨hvalues, hitems, hmembers⟩ := ih
      exact ⟨skipsValues_succ hitems hmembers, skipsItems_succ hvalues hitems,
        skipsMembers_succ hvalues hmembers⟩

/-- **What is skipped is a value**, with space in front. -/
theorem exists_isValue_of_skipValue (h : skipValue t = .ok rest) :
    ∃ i : Element, IsValue i.value ∧ t = i.text ++ rest :=
  (skips _).1 _ _ h

end

theorem not_isSpace_of_startsNumber {c : Char} (h : startsNumber c = true) : isSpace c = false := by
  simp only [startsNumber, Bool.or_eq_true, decide_eq_true_eq] at h
  rcases h with rfl | h
  · rfl
  · exact not_isSpace_of_isDigit h

/-- A value starts with a character that tells its kind. -/
theorem IsValue.starts {v : Text} (h : IsValue v) :
    ∃ c u, v = c :: u ∧ isSpace c = false ∧ c ≠ ']' := by
  cases h with
  | word h =>
      rcases h with rfl | rfl | rfl <;> exact ⟨_, _, rfl, rfl, by decide⟩
  | number h =>
      obtain ⟨c, u, rfl, hc⟩ := h.starts
      refine ⟨c, u, rfl, not_isSpace_of_startsNumber hc, ?_⟩
      rintro rfl
      exact absurd hc (by decide)
  | string _ =>
      exact ⟨'"', _, rfl, rfl, by decide⟩
  | array _ _ =>
      exact ⟨'[', _, rfl, rfl, by decide⟩
  | object _ _ _ =>
      exact ⟨'\x7b', _, rfl, rfl, by decide⟩

theorem endsNumber_blank {space : Text} (hspace : Blank space) {c : Char}
    (hc : c = ',' ∨ c = ']' ∨ c = '\x7d') (t : Text) : EndsNumber (space ++ c :: t) := by
  cases space with
  | nil =>
      rcases hc with rfl | rfl | rfl <;> exact ⟨rfl, rfl, by simp⟩
  | cons d space =>
      have hd := hspace d (by simp)
      simp only [isSpace, Bool.or_eq_true, decide_eq_true_eq] at hd
      rcases hd with ((rfl | rfl) | rfl) | rfl <;> exact ⟨rfl, rfl, by simp⟩

/-- What follows an item or member ends a number. -/
theorem IsRow.endsNumber {ts : List Text} {row : Text} (h : IsRow false ts row) {closer : Char}
    (hcloser : closer = ']' ∨ closer = '\x7d') : EndsNumber (row ++ closer :: rest) := by
  cases h with
  | nil hspace =>
      exact endsNumber_blank hspace (Or.inr hcloser) rest
  | cons hseparator _ =>
      obtain ⟨space, hspace, rfl⟩ := hseparator
      simp only [List.append_assoc, List.singleton_append]
      exact endsNumber_blank hspace (Or.inl rfl) _

section

/-- A value is skipped with space in front, given the fuel for it. -/
def IsSkipped (v : Text) : Prop :=
  ∀ fuel t rest, 2 * v.length ≤ fuel → skipSpace t = v ++ rest → EndsNumber rest →
    skipValueFrom fuel t = .ok rest

variable {fuel : Nat} {first : Bool} {row : Text}

theorem skipItemsFrom_row {items : List Element} (hrow : IsRow first (items.map Element.text) row)
    (hvalues : ∀ i ∈ items, IsValue i.value) (hskip : ∀ i ∈ items, IsSkipped i.value)
    (hfuel : 2 * row.length < fuel) :
    skipItemsFrom fuel first (row ++ ']' :: rest) = .ok rest := by
  induction items generalizing fuel first row with
  | nil =>
      cases hrow with
      | nil hspace =>
          obtain ⟨fuel, rfl⟩ := Nat.exists_eq_succ_of_ne_zero (by omega : fuel ≠ 0)
          rw [skipItemsFrom, nextSkippedItem_done hspace]
  | cons i items ih =>
      cases hrow with
      | @cons _ separator _ _ row hseparator htail =>
          obtain ⟨fuel, rfl⟩ := Nat.exists_eq_succ_of_ne_zero (by omega : fuel ≠ 0)
          obtain ⟨hi, hvalues⟩ := List.forall_mem_cons.mp hvalues
          obtain ⟨hskipped, hskip⟩ := List.forall_mem_cons.mp hskip
          obtain ⟨c, u, hstart, hc, hbracket⟩ := hi.starts
          rw [List.length_append, List.length_append, Element.text, List.length_append] at hfuel
          have hpositive : 0 < i.value.length := by simp [hstart]
          obtain ⟨v, hnext, hv⟩ := nextSkippedItem_separator (u := u ++ (row ++ ']' :: rest))
            hseparator i.blank_space hc hbracket
          have hitem : skipValueFrom fuel v = .ok (row ++ ']' :: rest) :=
            hskipped fuel v _ (by omega) (by rw [hv, hstart]; rfl) (htail.endsNumber (Or.inl rfl))
          have hless : 2 * row.length < fuel := by omega
          have hmore := ih htail hvalues hskip hless
          simp only [Element.text, hstart, List.append_assoc, List.cons_append]
          rw [skipItemsFrom, hnext]
          dsimp only
          rw [hitem]
          exact hmore

theorem skipMembersFrom_row {members : List Member}
    (hrow : IsRow first (members.map Member.text) row) (hkeys : ∀ m ∈ members, IsString m.key)
    (hvalues : ∀ m ∈ members, IsValue m.item.value)
    (hskip : ∀ m ∈ members, IsSkipped m.item.value) (hfuel : 2 * row.length < fuel) :
    skipMembersFrom fuel first (row ++ '\x7d' :: rest) = .ok rest := by
  induction members generalizing fuel first row with
  | nil =>
      cases hrow with
      | nil hspace =>
          obtain ⟨fuel, rfl⟩ := Nat.exists_eq_succ_of_ne_zero (by omega : fuel ≠ 0)
          rw [skipMembersFrom, nextSkippedMember_done hspace]
  | cons m members ih =>
      cases hrow with
      | @cons _ separator _ _ row hseparator htail =>
          obtain ⟨fuel, rfl⟩ := Nat.exists_eq_succ_of_ne_zero (by omega : fuel ≠ 0)
          simp only [List.length_append, List.length_cons, Member.text, Element.text, inQuotes]
            at hfuel
          obtain ⟨hm, hkeys⟩ := List.forall_mem_cons.mp hkeys
          obtain ⟨hvalue, hvalues⟩ := List.forall_mem_cons.mp hvalues
          obtain ⟨hskipped, hskip⟩ := List.forall_mem_cons.mp hskip
          obtain ⟨c, u, hstart, hc, -⟩ := hvalue.starts
          have hkey : skipString (m.key ++ '"' :: (m.gap ++ ':' :: (m.item.text ++
              (row ++ '\x7d' :: rest)))) = .ok (m.gap ++ ':' :: (m.item.text ++
                (row ++ '\x7d' :: rest))) :=
            skipString_eq_ok_iff.mpr ⟨m.key, hm, rfl⟩
          have hcolon : readColon (m.gap ++ ':' :: (m.item.text ++ (row ++ '\x7d' :: rest))) =
              .ok (m.item.text ++ (row ++ '\x7d' :: rest)) :=
            readColon_eq_ok_iff.mpr ⟨m.gap, m.blank_gap, rfl⟩
          have hitem : skipValueFrom fuel (m.item.text ++ (row ++ '\x7d' :: rest)) =
              .ok (row ++ '\x7d' :: rest) := by
            refine hskipped fuel _ _ (by omega) ?_ (htail.endsNumber (Or.inr rfl))
            rw [Element.text, hstart, List.append_assoc]
            exact skipSpace_blank m.item.blank_space hc _
          have hless : 2 * row.length < fuel := by omega
          have hmore := ih htail hkeys hvalues hskip hless
          have happend : separator ++ (m.text ++ row) ++ '\x7d' :: rest =
              separator ++ (m.space ++ '"' :: (m.key ++ '"' :: (m.gap ++ ':' :: (m.item.text ++
                (row ++ '\x7d' :: rest))))) := by
            simp [Member.text, inQuotes]
          rw [happend, skipMembersFrom, nextSkippedMember_separator hseparator m.blank_space]
          dsimp only
          rw [hkey]
          dsimp only
          unfold skipMember
          rw [hcolon]
          dsimp only
          rw [hitem]
          exact hmore

theorem skipValueFrom_succ {c : Char} {u : Text} (h : skipSpace t = c :: u) :
    skipValueFrom (fuel + 1) t =
      if c = 'n' then readWord "ull".toList u
      else if c = 't' then readWord "rue".toList u
      else if c = 'f' then readWord "alse".toList u
      else if c = '"' then skipString u
      else if startsNumber c = true then skipNumber (c :: u)
      else if c = '[' then skipItemsFrom fuel true u
      else if c = '\x7b' then skipMembersFrom fuel true u
      else .error (stopOn .expectedValue (c :: u)) := by
  rw [skipValueFrom, h]

theorem skipValueFrom_number {c : Char} {u : Text} (h : skipSpace t = c :: u)
    (hc : startsNumber c = true) : skipValueFrom (fuel + 1) t = skipNumber (c :: u) := by
  have hne : ∀ d, startsNumber d = false → c ≠ d := by
    rintro d hd rfl
    rw [hc] at hd
    cases hd
  rw [skipValueFrom_succ h, if_neg (hne _ (by decide)), if_neg (hne _ (by decide)),
    if_neg (hne _ (by decide)), if_neg (hne _ (by decide)), if_pos hc]

/-- Every value is skipped. -/
theorem IsValue.isSkipped {v : Text} (h : IsValue v) : IsSkipped v := by
  -- The fuel is twice the length of the value: what is inside is shorter by the two brackets, which
  -- leaves enough for the one step more that an item or a member takes.
  induction h with
  | word h =>
      intro fuel t rest hfuel hstart _
      have hpositive : fuel ≠ 0 := by
        rintro rfl
        rcases h with rfl | rfl | rfl <;> exact absurd hfuel (by decide)
      obtain ⟨fuel, rfl⟩ := Nat.exists_eq_succ_of_ne_zero hpositive
      rcases h with rfl | rfl | rfl <;> rw [skipValueFrom_succ hstart] <;>
        exact readWord_eq_ok_iff.mpr rfl
  | @number n h =>
      intro fuel t rest hfuel hstart hrest
      obtain ⟨c, u, rfl, hc⟩ := h.starts
      rw [List.length_cons] at hfuel
      obtain ⟨fuel, rfl⟩ := Nat.exists_eq_succ_of_ne_zero (by omega : fuel ≠ 0)
      rw [skipValueFrom_number hstart hc]
      exact skipNumber_append h hrest
  | @string s h =>
      intro fuel t rest hfuel hstart _
      rw [inQuotes, List.length_cons] at hfuel
      obtain ⟨fuel, rfl⟩ := Nat.exists_eq_succ_of_ne_zero (by omega : fuel ≠ 0)
      rw [skipValueFrom_succ hstart]
      exact skipString_eq_ok_iff.mpr ⟨s, h, by simp⟩
  | @array items row hrow hvalues ih =>
      intro fuel t rest hfuel hstart _
      rw [List.length_cons, List.length_append] at hfuel
      obtain ⟨fuel, rfl⟩ := Nat.exists_eq_succ_of_ne_zero (by omega : fuel ≠ 0)
      have hitems : skipItemsFrom fuel true (row ++ ']' :: rest) = .ok rest :=
        skipItemsFrom_row hrow hvalues ih (by omega)
      rw [List.cons_append, List.append_assoc] at hstart
      rw [skipValueFrom_succ hstart]
      exact hitems
  | @object members row hrow hkeys hvalues ih =>
      intro fuel t rest hfuel hstart _
      rw [List.length_cons, List.length_append] at hfuel
      obtain ⟨fuel, rfl⟩ := Nat.exists_eq_succ_of_ne_zero (by omega : fuel ≠ 0)
      have hmembers : skipMembersFrom fuel true (row ++ '\x7d' :: rest) = .ok rest :=
        skipMembersFrom_row hrow hkeys hvalues ih (by omega)
      rw [List.cons_append, List.append_assoc] at hstart
      rw [skipValueFrom_succ hstart]
      exact hmembers

end

/-- **Values are skipped**, with space in front, up to what ends a number. -/
theorem skipValue_element (i : Element) (hi : IsValue i.value) (hrest : EndsNumber rest) :
    skipValue (i.text ++ rest) = .ok rest := by
  obtain ⟨c, u, hstart, hc, -⟩ := hi.starts
  refine hi.isSkipped _ _ _ ?_ ?_ hrest
  · simp only [Element.text, List.length_append]
    omega
  · rw [Element.text, hstart, List.append_assoc]
    exact skipSpace_blank i.blank_space hc _

end Json
end IconAssets
