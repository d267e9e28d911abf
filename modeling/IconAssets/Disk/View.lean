import IconAssets.Disk.Basic

/-!
# What changes do to a disk

Each change of a disk is described by the objects that are found afterwards.

Results:

* `lookup_clear` : clearing a place takes away what is at it and below;
* `lookup_put` : putting an object somewhere does so too, and then the object is there;
* `stored?_move` : moving a place takes what is listed below it along.
-/

namespace IconAssets
namespace Disk

/-- Looking up a key in the entries with certain keys. -/
theorem lookup_filter {α β : Type} [BEq α] [LawfulBEq α] (keep : α → Bool) (l : List (α × β))
    (a : α) :
    (l.filter fun e => keep e.1).lookup a = if keep a then l.lookup a else none := by
  induction l with
  | nil => simp
  | cons e l ih =>
    obtain ⟨b, v⟩ := e
    rw [List.filter_cons]
    by_cases hb : keep b <;> by_cases h : a == b
    · simp [hb, eq_of_beq h]
    · simp [hb, h, List.lookup_cons, ih]
    · have := eq_of_beq h
      subst this
      simp [hb, ih]
    · simp [hb, h, List.lookup_cons, ih]

@[simp] theorem above_nil : above [] = [] := rfl

@[simp] theorem above_cons (name : Text) (rest : Place) :
    above (name :: rest) = [] :: (above rest).map (name :: ·) := rfl

/-- The places above an object are its folder and the places above that. -/
theorem above_append_singleton (p : Place) (name : Text) :
    above (p ++ [name]) = above p ++ [p] := by
  induction p with
  | nil => rfl
  | cons n p ih => simp [ih]

/-- A place is above another if it is a proper beginning of it. -/
theorem mem_above {p q : Place} : q ∈ above p ↔ q <+: p ∧ q ≠ p := by
  induction p generalizing q with
  | nil => simp
  | cons name rest ih =>
    cases q with
    | nil => simp
    | cons n q =>
      simp [ih, List.cons_prefix_cons]
      constructor
      · rintro ⟨h, rfl⟩; exact ⟨⟨rfl, h.1⟩, fun _ => h.2⟩
      · rintro ⟨⟨rfl, h⟩, hn⟩; exact ⟨⟨h, hn rfl⟩, rfl⟩

/-- A place above another is a beginning of it. -/
theorem prefix_of_mem_above {p q : Place} (h : q ∈ above p) : q <+: p := (mem_above.1 h).1

/-- The root folder is always there. -/
@[simp] theorem lookup_nil (d : Disk) : d.lookup [] = some .folder := by simp [lookup, stored?]

/-- Clearing a place takes what is listed at it and below. -/
theorem stored?_clear (d : Disk) {p : Place} (hp : p ≠ []) (q : Place) :
    (d.clear p).stored? q = if p.isPrefixOf q then none else d.stored? q := by
  by_cases hq : q = []
  · subst hq
    cases p with
    | nil => exact absurd rfl hp
    | cons n p => simp [stored?]
  · simp only [stored?, hq, if_false, clear, lookup_filter (fun a => !p.isPrefixOf a)]
    cases h : p.isPrefixOf q <;> simp

/-- What is not listed is not there. -/
theorem lookup_eq_none_of_stored? {d : Disk} {q : Place} (h : d.stored? q = none) :
    d.lookup q = none := by simp [lookup, h]

/-- Two disks agree about a place if they list the same objects for it and for all places above. -/
theorem lookup_congr {d e : Disk} {q : Place} (h : d.stored? q = e.stored? q)
    (ha : ∀ r ∈ above q, d.stored? r = e.stored? r) : d.lookup q = e.lookup q := by
  have hall : ((above q).all fun r => d.stored? r = some .folder) =
      ((above q).all fun r => e.stored? r = some .folder) := by
    rw [Bool.eq_iff_iff, List.all_eq_true, List.all_eq_true]
    exact ⟨fun hd r hr => by simpa [ha r hr] using hd r hr,
      fun he r hr => by simpa [ha r hr] using he r hr⟩
  simp only [lookup, hall, h]

/-- Clearing a place takes away what is at it and below, and nothing else. -/
theorem lookup_clear (d : Disk) {p : Place} (hp : p ≠ []) (q : Place) :
    (d.clear p).lookup q = if p.isPrefixOf q then none else d.lookup q := by
  by_cases h : p.isPrefixOf q
  · rw [if_pos h]
    exact lookup_eq_none_of_stored? (by rw [stored?_clear d hp, if_pos h])
  · rw [if_neg h]
    refine lookup_congr (by rw [stored?_clear d hp, if_neg h]) fun r hr => ?_
    rw [stored?_clear d hp, if_neg]
    intro hr'
    exact h (List.isPrefixOf_iff_prefix.2
      ((List.isPrefixOf_iff_prefix.1 hr').trans (prefix_of_mem_above hr)))

/-- Putting an object somewhere lists it, and takes what was listed there and below. -/
theorem stored?_put (d : Disk) {p : Place} (hp : p ≠ []) (x : Object) (q : Place) :
    (d.put p x).stored? q =
      if q = p then some x else if p.isPrefixOf q then none else d.stored? q := by
  by_cases hq : q = p
  · subst hq
    simp [stored?, put, hp]
  · rw [if_neg hq, ← stored?_clear d hp]
    have : (q == p) = false := by simpa using hq
    simp [stored?, put, List.lookup_cons, this]

/-- What is in a folder is there if it is listed. -/
theorem lookup_append_singleton (d : Disk) (p : Place) (name : Text) :
    d.lookup (p ++ [name]) =
      if d.lookup p = some .folder then d.stored? (p ++ [name]) else none := by
  have h : d.lookup p = some .folder ↔
      ((above p).all fun r => d.stored? r = some .folder) = true ∧
        d.stored? p = some .folder := by
    rw [lookup]
    by_cases h : ((above p).all fun r => d.stored? r = some .folder) = true
    · rw [if_pos h]
      exact ⟨fun e => ⟨h, e⟩, fun e => e.2⟩
    · rw [if_neg h]
      exact ⟨fun e => absurd e (by simp), fun e => absurd e.1 h⟩
  rw [lookup, above_append_singleton, List.all_append]
  by_cases hp : d.lookup p = some .folder
  · simp [hp, h.1 hp]
  · rw [if_neg hp, if_neg]
    intro hc
    rw [Bool.and_eq_true] at hc
    exact hp (h.2 ⟨hc.1, by simpa using hc.2⟩)

/-- Putting an object into a folder takes away what was at its place and below, and changes nothing
else. -/
theorem lookup_put (d : Disk) {p : Place} {name : Text} (hp : d.lookup p = some .folder)
    (x : Object) (q : Place) :
    (d.put (p ++ [name]) x).lookup q =
      if q = p ++ [name] then some x
      else if (p ++ [name]).isPrefixOf q then none else d.lookup q := by
  have hne : p ++ [name] ≠ [] := by simp
  have hother : ∀ r, ¬(p ++ [name]) <+: r → (d.put (p ++ [name]) x).stored? r = d.stored? r := by
    intro r hr
    have hr' : r ≠ p ++ [name] := by
      rintro rfl
      exact hr (List.prefix_refl _)
    rw [stored?_put d hne, if_neg hr', if_neg fun e => hr (List.isPrefixOf_iff_prefix.1 e)]
  have habove : ∀ q, ¬(p ++ [name]) <+: q → (d.put (p ++ [name]) x).lookup q = d.lookup q :=
    fun q hq => lookup_congr (hother q hq) fun r hr =>
      hother r fun e => hq (e.trans (prefix_of_mem_above hr))
  by_cases hq : q = p ++ [name]
  · subst hq
    have hlonger : ¬(p ++ [name]) <+: p := fun e => by
      have := e.length_le
      simp only [List.length_append, List.length_singleton] at this
      omega
    rw [lookup_append_singleton, habove p hlonger, if_pos hp, stored?_put d hne, if_pos rfl,
      if_pos rfl]
  · rw [if_neg hq]
    by_cases hb : (p ++ [name]).isPrefixOf q
    · rw [if_pos hb]
      exact lookup_eq_none_of_stored? (by rw [stored?_put d hne, if_neg hq, if_pos hb])
    · rw [if_neg hb]
      exact habove q fun e => hb (List.isPrefixOf_iff_prefix.2 e)

/-- Looking up in a list takes the first entry with the key. -/
theorem lookup_cons_eq (q r : Place) (x : Object) (l : List (Place × Object)) :
    ((r, x) :: l).lookup q = if q = r then some x else l.lookup q := by
  rw [List.lookup_cons]
  by_cases h : q = r
  · simp [h]
  · simp [h, beq_eq_false_iff_ne.2 h]

/-- Looking up a place in a list whose entries below one place have been moved to another. -/
theorem lookup_moved {s t : Place} (hst : ¬s <+: t) (hts : ¬t <+: s) (l : List (Place × Object))
    (q : Place) :
    (l.filterMap fun e =>
      if t.isPrefixOf e.1 then none
      else if s.isPrefixOf e.1 then some (t ++ e.1.drop s.length, e.2)
      else some e).lookup q =
      if t.isPrefixOf q then l.lookup (s ++ q.drop t.length)
      else if s.isPrefixOf q then none else l.lookup q := by
  have apart : ∀ r, t <+: r → s <+: r → False := fun r ht hs => by
    rcases List.prefix_or_prefix_of_prefix ht hs with h | h
    · exact hts h
    · exact hst h
  induction l with
  | nil => simp
  | cons e l ih =>
    obtain ⟨r, x⟩ := e
    rw [List.filterMap_cons]
    by_cases ht : t <+: r
    · have hs : ¬s <+: r := apart r ht
      rw [if_pos (List.isPrefixOf_iff_prefix.2 ht), ih, lookup_cons_eq, lookup_cons_eq]
      by_cases hq : t <+: q
      · have : s ++ q.drop t.length ≠ r := fun e => hs (e ▸ List.prefix_append s _)
        simp [List.isPrefixOf_iff_prefix.2 hq, this]
      · have : q ≠ r := fun e => hq (e ▸ ht)
        simp [this, hq]
    · by_cases hs : s <+: r
      · obtain ⟨u, rfl⟩ := hs
        rw [if_neg fun e => ht (List.isPrefixOf_iff_prefix.1 e),
          if_pos (List.isPrefixOf_iff_prefix.2 (List.prefix_append s u)), List.drop_left]
        simp only [lookup_cons_eq, ih]
        by_cases hq : t <+: q
        · obtain ⟨v, rfl⟩ := hq
          simp
        · have h1 : q ≠ t ++ u := fun e => hq (e ▸ List.prefix_append t u)
          by_cases h2 : q = s ++ u
          · subst h2
            simp [h1, hq]
          · simp [h1, h2, hq]
      · rw [if_neg fun e => ht (List.isPrefixOf_iff_prefix.1 e),
          if_neg fun e => hs (List.isPrefixOf_iff_prefix.1 e)]
        simp only [lookup_cons_eq, ih]
        by_cases hq : t <+: q
        · have h1 : q ≠ r := fun e => ht (e ▸ hq)
          have h2 : s ++ q.drop t.length ≠ r := fun e => hs (e ▸ List.prefix_append s _)
          simp [h1, h2, List.isPrefixOf_iff_prefix.2 hq]
        · by_cases h1 : q = r
          · subst h1
            simp [hs, ht]
          · simp [h1, hq]

/-- Moving a place takes what is listed at and below it along, in place of what was there. -/
theorem stored?_move (d : Disk) {s t : Place} (hst : ¬s <+: t) (hts : ¬t <+: s) (q : Place) :
    (d.move s t).stored? q =
      if t.isPrefixOf q then d.stored? (s ++ q.drop t.length)
      else if s.isPrefixOf q then none else d.stored? q := by
  have hs : s ≠ [] := by
    rintro rfl
    exact hst List.nil_prefix
  have ht : t ≠ [] := by
    rintro rfl
    exact hts List.nil_prefix
  by_cases hq : q = []
  · subst hq
    have h1 : t.isPrefixOf [] = false := by
      cases t with
      | nil => exact absurd rfl ht
      | cons _ _ => rfl
    have h2 : s.isPrefixOf [] = false := by
      cases s with
      | nil => exact absurd rfl hs
      | cons _ _ => rfl
    simp [stored?, h1, h2]
  · have : s ++ q.drop t.length ≠ [] := by simp [hs]
    simp only [stored?, hq, this, if_false]
    exact lookup_moved hst hts d.objects q

end Disk
end IconAssets
