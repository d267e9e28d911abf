import IconAssets.Proofs.Json.Grammar
import Mathlib.Data.List.TakeWhile

/-!
# Going through rows

The readers of arrays and objects go from one item or member to the next, over space and commas.
They differ in what they look for at the start of a row and behind a comma; otherwise each of them
is `Next.find`.

* `Next.Follows`: what a reader has gone over;
* `follows_of_nextItem`, `follows_of_nextSkippedItem`, `follows_of_nextMember`,
  `follows_of_nextSkippedMember`: the readers go over separators only;
* `nextItem_separator`, `nextSkippedItem_separator`, `nextMember_separator`,
  `nextSkippedMember_separator`: they go over all separators;
* `readColon_eq_ok_iff`: the colon of a member.
-/

namespace IconAssets
namespace Json

variable {t u rest : Text} {first : Bool}

theorem skipSpace_eq_nil_iff : skipSpace t = [] ↔ Blank t := by
  unfold skipSpace
  exact List.dropWhile_eq_nil_iff

theorem skipSpace_eq_cons_iff {c : Char} :
    skipSpace t = c :: u ↔ ∃ space, Blank space ∧ isSpace c = false ∧ t = space ++ c :: u := by
  constructor
  · intro h
    have hdrop : t.dropWhile isSpace = c :: u := h
    refine ⟨t.takeWhile isSpace, fun d hd => List.mem_takeWhile_imp hd, ?_, ?_⟩
    · simpa [hdrop] using List.head?_dropWhile_not isSpace t
    · rw [← hdrop, List.takeWhile_append_dropWhile]
  · rintro ⟨space, hspace, hc, rfl⟩
    exact skipSpace_blank hspace hc u

namespace Next

/-- What a reader has gone over when it finds the end of a row, or the next item or member, of which
it takes the opening characters too. -/
def Follows (first : Bool) (closer : Char) (opener t : Text) : Next → Prop
  | done rest => ∃ space, Blank space ∧ t = space ++ closer :: rest
  | more u => ∃ separator space, IsSeparator first separator ∧ Blank space ∧
      t = separator ++ (space ++ (opener ++ u))

/-- What a reader looks for at the start of an item or a member. -/
def Opens (opener : Text) (look : Text → Except Stop Next) : Prop :=
  ∀ t next, look t = .ok next →
    ∃ space u, Blank space ∧ t = space ++ (opener ++ u) ∧ next = .more u

/-- Goes to the end of a row or to the next item or member; `start` and `behindComma` look at what
is found there. -/
def find (closer : Char) (ends misplaced : Reason) (start behindComma : Text → Except Stop Next)
    (first : Bool) (t : Text) : Except Stop Next :=
  match skipSpace t with
  | [] => .error (stopOn ends [])
  | c :: u =>
    if c = closer then .ok (.done u)
    else if first then start (c :: u)
    else if c = ',' then behindComma u
    else .error (stopOn misplaced (c :: u))

variable {closer : Char} {ends misplaced : Reason} {start behindComma : Text → Except Stop Next}
  {opener : Text}

theorem follows_of_find (hstart : Opens opener start) (hcomma : Opens opener behindComma)
    {next : Next} (h : find closer ends misplaced start behindComma first t = .ok next) :
    next.Follows first closer opener t := by
  unfold find at h
  split at h
  · cases h
  · next c u hskip =>
    obtain ⟨space, hspace, -, rfl⟩ := skipSpace_eq_cons_iff.mp hskip
    split_ifs at h with hcloser hfirst hc
    · cases h
      exact ⟨space, hspace, by rw [hcloser]⟩
    · subst hfirst
      obtain ⟨space', v, hspace', heq, rfl⟩ := hstart _ _ h
      refine ⟨[], space ++ space', rfl, ?_, by rw [heq]; simp⟩
      exact List.forall_mem_append.mpr ⟨hspace, hspace'⟩
    · subst hc
      rw [Bool.not_eq_true] at hfirst
      subst hfirst
      obtain ⟨space', v, hspace', rfl, rfl⟩ := hcomma _ _ h
      exact ⟨space ++ [','], space', ⟨space, hspace, rfl⟩, hspace', by simp⟩

theorem find_done (hcloser : isSpace closer = false) {space : Text} (hspace : Blank space) :
    find closer ends misplaced start behindComma first (space ++ closer :: rest) =
      .ok (.done rest) := by
  unfold find
  rw [skipSpace_blank hspace hcloser]
  exact if_pos rfl

theorem find_separator (hcomma : closer ≠ ',') {separator space : Text} {c : Char}
    (hseparator : IsSeparator first separator) (hspace : Blank space) (hc : isSpace c = false)
    (hcloser : c ≠ closer) :
    find closer ends misplaced start behindComma first (separator ++ (space ++ c :: u)) =
      if first = true then start (c :: u) else behindComma (space ++ c :: u) := by
  cases first with
  | true =>
      cases hseparator
      unfold find
      rw [List.nil_append, skipSpace_blank hspace hc]
      dsimp only
      rw [if_neg hcloser, if_pos rfl, if_pos rfl]
  | false =>
      obtain ⟨space', hspace', rfl⟩ := hseparator
      unfold find
      rw [List.append_assoc, List.singleton_append, skipSpace_blank hspace' (by decide)]
      dsimp only
      rw [if_neg (Ne.symm hcomma)]
      rfl

end Next

/-- What is looked for behind the comma of an array that is read. -/
def itemBehindComma (t : Text) : Except Stop Next :=
  match skipSpace t with
  | [] => .error (stopOn .endInValue [])
  | c :: u => if c = ']' then .error (stopOn .trailingComma (c :: u)) else .ok (.more (c :: u))

/-- What is looked for at the start of an object that is read. -/
def memberAtStart : Text → Except Stop Next
  | [] => .error (stopOn .endInObject [])
  | c :: u => if c = '"' then .ok (.more u) else .error (stopOn .keyMustBeString (c :: u))

/-- What is looked for behind the comma of an object that is read. -/
def memberBehindComma (t : Text) : Except Stop Next :=
  match skipSpace t with
  | [] => .error (stopOn .endInValue [])
  | c :: u =>
    if c = '"' then .ok (.more u)
    else if c = '\x7d' then .error (stopOn .trailingComma (c :: u))
    else .error (stopOn .keyMustBeString (c :: u))

/-- What is looked for in an object that is skipped. -/
def skippedMember (t : Text) : Except Stop Next :=
  match skipSpace t with
  | [] => .error (stopOn .endInObject [])
  | c :: u => if c = '"' then .ok (.more u) else .error (stopOn .keyMustBeString (c :: u))

theorem nextItem_eq_find : nextItem first t =
    Next.find ']' .endInList .expectedListCommaOrEnd (fun u => .ok (.more u)) itemBehindComma
      first t := by
  rfl

theorem nextSkippedItem_eq_find : nextSkippedItem first t =
    Next.find ']' .endInList .expectedListCommaOrEnd (fun u => .ok (.more u))
      (fun u => .ok (.more u)) first t := by
  rfl

theorem nextMember_eq_find : nextMember first t =
    Next.find '\x7d' .endInObject .expectedObjectCommaOrEnd memberAtStart memberBehindComma
      first t := by
  rfl

theorem nextSkippedMember_eq_find : nextSkippedMember first t =
    Next.find '\x7d' .endInObject .expectedObjectCommaOrEnd skippedMember skippedMember
      first t := by
  rfl

theorem opens_more : Next.Opens [] fun u => .ok (.more u) := by
  rintro t next h
  cases h
  exact ⟨[], t, blank_nil, rfl, rfl⟩

theorem opens_itemBehindComma : Next.Opens [] itemBehindComma := by
  intro t next h
  unfold itemBehindComma at h
  split at h
  · cases h
  · next c u hskip =>
    obtain ⟨space, hspace, -, rfl⟩ := skipSpace_eq_cons_iff.mp hskip
    split_ifs at h
    cases h
    exact ⟨space, c :: u, hspace, rfl, rfl⟩

theorem opens_memberAtStart : Next.Opens ['"'] memberAtStart := by
  intro t next h
  unfold memberAtStart at h
  split at h
  · cases h
  · next c u =>
    split_ifs at h with hquote
    cases h
    exact ⟨[], u, blank_nil, by rw [hquote]; rfl, rfl⟩

theorem opens_memberBehindComma : Next.Opens ['"'] memberBehindComma := by
  intro t next h
  unfold memberBehindComma at h
  split at h
  · cases h
  · next c u hskip =>
    obtain ⟨space, hspace, -, rfl⟩ := skipSpace_eq_cons_iff.mp hskip
    split_ifs at h with hquote
    cases h
    exact ⟨space, u, hspace, by rw [hquote]; rfl, rfl⟩

theorem opens_skippedMember : Next.Opens ['"'] skippedMember := by
  intro t next h
  unfold skippedMember at h
  split at h
  · cases h
  · next c u hskip =>
    obtain ⟨space, hspace, -, rfl⟩ := skipSpace_eq_cons_iff.mp hskip
    split_ifs at h with hquote
    cases h
    exact ⟨space, u, hspace, by rw [hquote]; rfl, rfl⟩

section

variable {next : Next}

theorem follows_of_nextItem (h : nextItem first t = .ok next) : next.Follows first ']' [] t :=
  Next.follows_of_find opens_more opens_itemBehindComma (nextItem_eq_find ▸ h)

theorem follows_of_nextSkippedItem (h : nextSkippedItem first t = .ok next) :
    next.Follows first ']' [] t :=
  Next.follows_of_find opens_more opens_more (nextSkippedItem_eq_find ▸ h)

theorem follows_of_nextMember (h : nextMember first t = .ok next) :
    next.Follows first '\x7d' ['"'] t :=
  Next.follows_of_find opens_memberAtStart opens_memberBehindComma (nextMember_eq_find ▸ h)

theorem follows_of_nextSkippedMember (h : nextSkippedMember first t = .ok next) :
    next.Follows first '\x7d' ['"'] t :=
  Next.follows_of_find opens_skippedMember opens_skippedMember (nextSkippedMember_eq_find ▸ h)

end

section

variable {separator space : Text} {c : Char}

theorem nextItem_done (hspace : Blank space) :
    nextItem first (space ++ ']' :: rest) = .ok (.done rest) := by
  rw [nextItem_eq_find, Next.find_done (by decide) hspace]

theorem nextSkippedItem_done (hspace : Blank space) :
    nextSkippedItem first (space ++ ']' :: rest) = .ok (.done rest) := by
  rw [nextSkippedItem_eq_find, Next.find_done (by decide) hspace]

theorem nextMember_done (hspace : Blank space) :
    nextMember first (space ++ '\x7d' :: rest) = .ok (.done rest) := by
  rw [nextMember_eq_find, Next.find_done (by decide) hspace]

theorem nextSkippedMember_done (hspace : Blank space) :
    nextSkippedMember first (space ++ '\x7d' :: rest) = .ok (.done rest) := by
  rw [nextSkippedMember_eq_find, Next.find_done (by decide) hspace]

theorem nextItem_separator (hseparator : IsSeparator first separator) (hspace : Blank space)
    (hc : isSpace c = false) (hbracket : c ≠ ']') :
    nextItem first (separator ++ (space ++ c :: u)) = .ok (.more (c :: u)) := by
  rw [nextItem_eq_find, Next.find_separator (by decide) hseparator hspace hc hbracket]
  split
  · rfl
  · unfold itemBehindComma
    rw [skipSpace_blank hspace hc]
    exact if_neg hbracket

/-- The space in front of an item that is skipped is left to be skipped with it, or not. -/
theorem nextSkippedItem_separator (hseparator : IsSeparator first separator) (hspace : Blank space)
    (hc : isSpace c = false) (hbracket : c ≠ ']') :
    ∃ v, nextSkippedItem first (separator ++ (space ++ c :: u)) = .ok (.more v) ∧
      skipSpace v = c :: u := by
  rw [nextSkippedItem_eq_find, Next.find_separator (by decide) hseparator hspace hc hbracket]
  split
  · exact ⟨_, rfl, skipSpace_cons_of_not hc u⟩
  · exact ⟨_, rfl, skipSpace_blank hspace hc u⟩

theorem nextMember_separator (hseparator : IsSeparator first separator) (hspace : Blank space) :
    nextMember first (separator ++ (space ++ '"' :: u)) = .ok (.more u) := by
  rw [nextMember_eq_find, Next.find_separator (by decide) hseparator hspace (by decide) (by decide)]
  split
  · rfl
  · unfold memberBehindComma
    rw [skipSpace_blank hspace (by decide)]
    rfl

theorem nextSkippedMember_separator (hseparator : IsSeparator first separator)
    (hspace : Blank space) :
    nextSkippedMember first (separator ++ (space ++ '"' :: u)) = .ok (.more u) := by
  rw [nextSkippedMember_eq_find,
    Next.find_separator (by decide) hseparator hspace (by decide) (by decide)]
  unfold skippedMember
  rw [skipSpace_cons_of_not (by decide), skipSpace_blank hspace (by decide), ite_self]
  rfl

end

theorem readColon_eq_ok_iff :
    readColon t = .ok u ↔ ∃ gap, Blank gap ∧ t = gap ++ ':' :: u := by
  unfold readColon
  constructor
  · intro h
    split at h
    · cases h
    · next c v hskip =>
      obtain ⟨gap, hgap, -, rfl⟩ := skipSpace_eq_cons_iff.mp hskip
      split_ifs at h with hcolon
      cases h
      exact ⟨gap, hgap, by rw [hcolon]⟩
  · rintro ⟨gap, hgap, rfl⟩
    rw [skipSpace_blank hgap (by decide)]
    rfl

end Json
end IconAssets
