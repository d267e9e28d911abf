/-!
# Texts

A text is a list of characters.  This module holds the operations the rest of the library
builds on: cutting a text at a separator and gluing pieces together, finding and replacing
occurrences, and keeping the first occurrence of each item of a list.

Results:

* `glue_pieces` : gluing the pieces of a text gives the text back;
* `pieces_glue` : cutting glued pieces gives the pieces back when none holds the separator;
* `occursIn_iff` : `occursIn` decides being a contiguous part;
* `mem_firstOccurrences`, `nodup_firstOccurrences` : the same items, each once.
-/

namespace IconAssets

/-- A text, as the list of its characters. -/
abbrev Text := List Char

namespace Text

/-- Texts that compare equal are equal. -/
instance instLawfulBEq : LawfulBEq Text := List.instLawfulBEq

/-- The pieces of a text between the separators; a text without separator is one piece. -/
def pieces (sep : Char) : Text → List Text
  | [] => [[]]
  | c :: cs =>
    if c = sep then [] :: pieces sep cs
    else
      match pieces sep cs with
      | [] => [[c]]
      | p :: ps => (c :: p) :: ps

/-- Pieces written one after the other with a separator in between. -/
def glue (sep : Char) : List Text → Text
  | [] => []
  | [p] => p
  | p :: q :: ps => p ++ sep :: glue sep (q :: ps)

@[simp] theorem pieces_nil (sep : Char) : pieces sep [] = [[]] := rfl

@[simp] theorem glue_nil (sep : Char) : glue sep [] = [] := rfl

@[simp] theorem glue_singleton (sep : Char) (p : Text) : glue sep [p] = p := rfl

@[simp] theorem glue_cons_cons (sep : Char) (p q : Text) (ps : List Text) :
    glue sep (p :: q :: ps) = p ++ sep :: glue sep (q :: ps) := rfl

theorem pieces_ne_nil (sep : Char) (t : Text) : pieces sep t ≠ [] := by
  cases t with
  | nil => simp
  | cons c cs =>
    unfold pieces
    split
    · simp
    · split <;> simp

/-- A separator in front opens an empty first piece. -/
@[simp] theorem pieces_sep_cons (sep : Char) (t : Text) :
    pieces sep (sep :: t) = [] :: pieces sep t := by
  simp [pieces]

/-- Any other character joins the first piece. -/
theorem pieces_cons_of_ne {sep c : Char} (h : c ≠ sep) (t : Text) :
    ∃ p ps, pieces sep t = p :: ps ∧ pieces sep (c :: t) = (c :: p) :: ps := by
  cases hp : pieces sep t with
  | nil => exact absurd hp (pieces_ne_nil sep t)
  | cons p ps => exact ⟨p, ps, rfl, by simp [pieces, h, hp]⟩

/-- Gluing the pieces of a text gives the text back. -/
theorem glue_pieces (sep : Char) (t : Text) : glue sep (pieces sep t) = t := by
  induction t with
  | nil => rfl
  | cons c cs ih =>
    by_cases h : c = sep
    · subst h
      rw [pieces_sep_cons]
      cases hp : pieces c cs with
      | nil => exact absurd hp (pieces_ne_nil c cs)
      | cons p ps => rw [glue_cons_cons, ← hp, ih]; rfl
    · obtain ⟨p, ps, hp, hc⟩ := pieces_cons_of_ne h cs
      rw [hc]
      rw [hp] at ih
      cases ps with
      | nil => simpa using ih
      | cons q qs => simpa using ih

/-- No piece holds the separator. -/
theorem not_mem_of_mem_pieces {sep : Char} {t p : Text} (h : p ∈ pieces sep t) : sep ∉ p := by
  induction t generalizing p with
  | nil => simp_all
  | cons c cs ih =>
    by_cases hc : c = sep
    · subst hc
      rw [pieces_sep_cons, List.mem_cons] at h
      rcases h with rfl | h
      · simp
      · exact ih h
    · obtain ⟨q, qs, hq, hcs⟩ := pieces_cons_of_ne hc cs
      rw [hcs, List.mem_cons] at h
      rcases h with rfl | h
      · have := ih (p := q) (by simp [hq])
        simpa [Ne.symm hc] using this
      · exact ih (by simp [hq, h])

private theorem pieces_append_sep {sep : Char} {p : Text} (h : sep ∉ p) (t : Text) :
    pieces sep (p ++ sep :: t) = p :: pieces sep t := by
  induction p with
  | nil => simp
  | cons c cs ih =>
    have hc : c ≠ sep := fun e => h (by simp [e])
    have hcs : sep ∉ cs := fun m => h (by simp [m])
    simp [pieces, hc, ih hcs]

private theorem pieces_of_not_mem {sep : Char} {p : Text} (h : sep ∉ p) :
    pieces sep p = [p] := by
  induction p with
  | nil => rfl
  | cons c cs ih =>
    have hc : c ≠ sep := fun e => h (by simp [e])
    have hcs : sep ∉ cs := fun m => h (by simp [m])
    simp [pieces, hc, ih hcs]

/-- Cutting glued pieces gives the pieces back when none holds the separator. -/
theorem pieces_glue {sep : Char} {ps : List Text} (hne : ps ≠ [])
    (h : ∀ p ∈ ps, sep ∉ p) : pieces sep (glue sep ps) = ps := by
  induction ps with
  | nil => exact absurd rfl hne
  | cons p ps ih =>
    cases ps with
    | nil => exact pieces_of_not_mem (h p (by simp))
    | cons q qs =>
      rw [glue_cons_cons, pieces_append_sep (h p (by simp)), ih (by simp)]
      intro r hr
      exact h r (by simp [hr])

/-- Whether `needle` is a contiguous part of a text. -/
def occursIn (needle : Text) : Text → Bool
  | [] => needle.isEmpty
  | c :: cs => needle.isPrefixOf (c :: cs) || occursIn needle cs

theorem occursIn_iff (needle t : Text) : occursIn needle t = true ↔ needle <:+: t := by
  induction t with
  | nil => simp [occursIn]
  | cons c cs ih =>
    rw [occursIn, Bool.or_eq_true, List.isPrefixOf_iff_prefix, ih, List.infix_cons_iff]

/-- The replacement still owes `skip` characters of an occurrence it has already written. -/
def replaceFrom (old new : Text) : Nat → Text → Text
  | _, [] => []
  | skip + 1, _ :: cs => replaceFrom old new skip cs
  | 0, c :: cs =>
    if old.isPrefixOf (c :: cs) then new ++ replaceFrom old new (old.length - 1) cs
    else c :: replaceFrom old new 0 cs

/-- Writes `new` for each occurrence of the nonempty text `old`, from left to right, each
search going on behind the occurrence before. -/
def replaceAll (old new t : Text) : Text := replaceFrom old new 0 t

/-- The decimal digits of a number. -/
def ofNat (n : Nat) : Text := Nat.toDigits 10 n

/-- The text in ASCII lower case; other characters stay. -/
def lowerAscii (t : Text) : Text := t.map Char.toLower

/-- Whether a text comes before another by code points, which is also the order of their bytes in
UTF-8. -/
def comesBefore : Text → Text → Bool
  | _, [] => false
  | [], _ :: _ => true
  | c :: cs, d :: ds => c.toNat < d.toNat || (c = d && comesBefore cs ds)

/-- Adds a text to a list in increasing order, unless it is there already. -/
def insertOnce (t : Text) : List Text → List Text
  | [] => [t]
  | u :: us =>
    if t = u then u :: us else if comesBefore t u then t :: u :: us else u :: insertOnce t us

/-- The texts of a list in increasing order, each once. -/
def sortOnce (ts : List Text) : List Text := ts.foldr insertOnce []

/-- The number of bytes a text takes in UTF-8. -/
def byteLength (t : Text) : Nat := t.foldr (fun c n => c.utf8Size + n) 0

@[simp] theorem mem_insertOnce {t u : Text} {us : List Text} :
    u ∈ insertOnce t us ↔ u = t ∨ u ∈ us := by
  induction us with
  | nil => simp [insertOnce]
  | cons v vs ih =>
    unfold insertOnce
    split
    · next h => subst h; simp
    · split
      · simp
      · simp only [List.mem_cons, ih]
        exact ⟨fun h => h.elim (fun e => .inr (.inl e)) fun e => e.imp id .inr,
          fun h => h.elim (fun e => .inr (.inl e)) fun e => e.imp id .inr⟩

/-- Sorting keeps the items. -/
@[simp] theorem mem_sortOnce {u : Text} {ts : List Text} : u ∈ sortOnce ts ↔ u ∈ ts := by
  induction ts with
  | nil => simp [sortOnce]
  | cons t ts ih => rw [sortOnce, List.foldr_cons, mem_insertOnce, List.mem_cons]; exact or_congr_right ih

end Text

/-- The items of a list in the order of their first occurrence, each once. -/
def firstOccurrences {α : Type} [DecidableEq α] : List α → List α
  | [] => []
  | x :: xs => x :: (firstOccurrences xs).filter (· ≠ x)

@[simp] theorem firstOccurrences_nil {α : Type} [DecidableEq α] :
    firstOccurrences ([] : List α) = [] := rfl

@[simp] theorem mem_firstOccurrences {α : Type} [DecidableEq α] {x : α} {xs : List α} :
    x ∈ firstOccurrences xs ↔ x ∈ xs := by
  induction xs with
  | nil => simp
  | cons y ys ih => by_cases h : x = y <;> simp [firstOccurrences, ih, h]

theorem nodup_firstOccurrences {α : Type} [DecidableEq α] (xs : List α) :
    (firstOccurrences xs).Nodup := by
  induction xs with
  | nil => simp
  | cons y ys ih =>
    rw [firstOccurrences, List.nodup_cons]
    exact ⟨by simp, ih.sublist List.filter_sublist⟩

theorem firstOccurrences_of_nodup {α : Type} [DecidableEq α] {xs : List α} (h : xs.Nodup) :
    firstOccurrences xs = xs := by
  induction xs with
  | nil => rfl
  | cons x xs ih =>
    obtain ⟨hx, hxs⟩ := List.nodup_cons.mp h
    rw [firstOccurrences, ih hxs]
    congr 1
    refine List.filter_eq_self.mpr fun y hy => decide_eq_true ?_
    rintro rfl
    exact hx hy

/-- Of a second list only those items count that the first one does not have. -/
theorem firstOccurrences_append {α : Type} [DecidableEq α] (xs ys : List α) :
    firstOccurrences (xs ++ ys) =
      firstOccurrences xs ++ (firstOccurrences ys).filter (· ∉ xs) := by
  induction xs with
  | nil => exact (List.filter_eq_self.mpr fun _ _ => by simp).symm
  | cons x xs ih =>
    simp only [List.cons_append, firstOccurrences, ih, List.filter_append, List.filter_filter]
    congr 3
    funext y
    by_cases h : y = x <;> simp [h]

/-!
## Blank characters

The characters with the Unicode property `White_Space`, and trimming them from both ends of a
text.
-/

namespace Text

/-- The ranges of the property `White_Space`, both ends included. -/
def blankRanges : List (Nat × Nat) :=
  [(0x09, 0x0D), (0x20, 0x20), (0x85, 0x85), (0xA0, 0xA0), (0x1680, 0x1680), (0x2000, 0x200A),
   (0x2028, 0x2029), (0x202F, 0x202F), (0x205F, 0x205F), (0x3000, 0x3000)]

/-- Whether a code point lies in one of the ranges. -/
def inRanges (ranges : List (Nat × Nat)) (n : Nat) : Bool :=
  ranges.any fun r => r.1 ≤ n && n ≤ r.2

/-- Whether a character has the property `White_Space`. -/
def isBlank (c : Char) : Bool := inRanges blankRanges c.toNat

/-- The text from its first character that is not blank. -/
def skipBlanks (t : Text) : Text := t.dropWhile isBlank

/-- The text without the blank characters at its two ends. -/
def trim (t : Text) : Text := (skipBlanks (skipBlanks t).reverse).reverse

/-- Whether a text holds blank characters only; the empty text does. -/
def isAllBlank (t : Text) : Bool := t.all isBlank

@[simp] theorem skipBlanks_nil : skipBlanks [] = [] := rfl

/-- What core calls white space is blank. -/
theorem isBlank_of_isWhitespace {c : Char} (h : c.isWhitespace = true) : isBlank c = true := by
  simp only [Char.isWhitespace, Bool.or_eq_true, decide_eq_true_eq] at h
  rcases h with ((rfl | rfl) | rfl) | rfl <;> decide

end Text

end IconAssets
