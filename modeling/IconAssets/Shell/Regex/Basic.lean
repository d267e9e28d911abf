import IconAssets.Shell.Utility.Quoting

/-!
# Regular expressions

An expression is matched with a row of characters.  Of the matches that start at a place all ends
are found, the preferred way to each of them only: the left one of two alternatives, and a
repetition that goes on rather than one that stops.  A search takes the first place where a match
starts, and there the longest match.

An expression may ask for the text that a group of it has matched.  Then the ways to one end differ
in what follows, and all of them are kept.

Main statement:

* `stop_le_of_mem_found` : no match goes beyond the end of the row.
-/

namespace IconAssets
namespace Shell

/-- A regular expression over characters. -/
inductive Regex where
  /-- The empty text. -/
  | nothing
  /-- One character. -/
  | unit (accepts : Spelled → Bool)
  /-- The empty text between certain neighbours. -/
  | place (holds : Option Spelled → Option Spelled → Bool)
  | both (first second : Regex)
  | either (preferred other : Regex)
  | repeated (body : Regex) (least : Nat) (most : Option Nat)
  | group (number : Nat) (body : Regex)
  /-- The text that a group has matched. -/
  | again (number : Nat) (same : Spelled → Spelled → Bool)

namespace Regex

/-- How far a match has come, and where its groups start and stop. -/
structure Found where
  stop : Nat
  groups : List (Nat × Nat × Nat)
  deriving DecidableEq, Repr

/-- The match with the text since a place as a group. -/
def Found.withGroup (m : Found) (number start : Nat) : Found :=
  { m with groups := (number, start, m.stop) :: m.groups.filter (·.1 ≠ number) }

/-- Whether an expression asks for what a group has matched. -/
def refers : Regex → Bool
  | .nothing | .unit _ | .place _ => false
  | .both r t | .either r t => r.refers || t.refers
  | .repeated r _ _ | .group _ r => r.refers
  | .again _ _ => true

/-- The members of a list of which none before them is alike; members are alike if they have come
as far, and, if `whole`, with the same groups. -/
def firsts (whole : Bool) (size : Nat) (ms : List Found) : List Found :=
  match ms with
  | [] | [_] => ms
  | ms =>
    if whole then (ms.foldl (fun kept m => if m ∈ kept then kept else m :: kept) []).reverse
    else (ms.foldl (fun state m => keep state m) ([], Array.replicate (size + 1) false)).1.reverse
where
  /-- Keeps a match if none has come as far. -/
  keep (state : List Found × Array Bool) (m : Found) : List Found × Array Bool :=
    if state.2[m.stop]? = some true then state
    else (m :: state.1, state.2.setIfInBounds m.stop true)

/-- What a search through repetitions has come by: where it has been with so many repetitions left,
and what it has reached, the preferred last. -/
structure Trail where
  marks : Array Bool
  met : List (Found × Nat)
  reached : List Found

namespace Trail

/-- Whether a search has come to a match with so many repetitions left. -/
def has (trail : Trail) (whole : Bool) (index left : Nat) (m : Found) : Bool :=
  if whole then (m, left) ∈ trail.met else trail.marks[index]? = some true

/-- Notes where a search has come. -/
def note (trail : Trail) (whole : Bool) (index left : Nat) (m : Found) : Trail :=
  if whole then { trail with met := (m, left) :: trail.met }
  else { trail with marks := trail.marks.setIfInBounds index true }

@[simp] theorem reached_note (trail : Trail) (whole : Bool) (index left : Nat) (m : Found) :
    (trail.note whole index left m).reached = trail.reached := by
  unfold note
  split <;> rfl

/-- Adds what is reached. -/
def reach (trail : Trail) (m : Found) : Trail := { trail with reached := m :: trail.reached }

end Trail

/-- All that is reached by repeating a step while it makes progress; `left` is the number of
repetitions that are left, if it is bounded by `most`. -/
def repeatStep (whole : Bool) (most : Option Nat) (step : Found → List Found) :
    Nat → Nat → Trail → Found → Trail
  | 0, _, trail, _ => trail
  | fuel + 1, left, trail, m =>
    let index := m.stop * (most.getD 0 + 1) + left
    if trail.has whole index left m then trail
    else if most.isSome && left = 0 then (trail.note whole index left m).reach m
    else
      ((step m).foldl (fun trail k =>
        if k.stop ≤ m.stop then trail else repeatStep whole most step fuel (left - 1) trail k)
        (trail.note whole index left m)).reach m

/-- All that is reached by repeating a step as often as allowed, the preferred first. -/
def repetitions (whole : Bool) (size : Nat) (step : Found → List Found) (most : Option Nat)
    (m : Found) : List Found :=
  let left := most.getD 0
  (repeatStep whole most step (size + 2) left
    ⟨if whole then #[] else Array.replicate ((size + 1) * (left + 1)) false, [], []⟩ m).reached.reverse

/-- The matches of an expression that go on from another match, the preferred first. -/
def found (s : Array Spelled) (whole : Bool) : Regex → Found → List Found
  | .nothing => fun m => [m]
  | .unit accepts => fun m =>
    if s[m.stop]?.any accepts then [{ m with stop := m.stop + 1 }] else []
  | .place holds => fun m => [m].filter fun m =>
    holds (if m.stop = 0 then none else s[m.stop - 1]?) s[m.stop]?
  | .both r t => fun m => firsts whole s.size ((found s whole r m).flatMap (found s whole t))
  | .either r t => fun m => firsts whole s.size (found s whole r m ++ found s whole t m)
  | .repeated r least most => fun m =>
    let step := found s whole r
    let start := (List.range least).foldl (fun ms _ => firsts whole s.size (ms.flatMap step)) [m]
    firsts whole s.size
      (start.flatMap (repetitions whole s.size step (most.map (· - least))))
  | .group number r => fun m => (found s whole r m).map (·.withGroup number m.stop)
  | .again number same => fun m =>
    match m.groups.lookup number with
    | none => []
    | some (start, stop) =>
      let length := stop - start
      let agrees := m.stop + length ≤ s.size && (List.range length).all fun i =>
        match s[start + i]?, s[m.stop + i]? with
        | some a, some b => same a b
        | _, _ => false
      if agrees then [{ m with stop := m.stop + length }] else []

/-- The longest of some matches, the first of those that are equally long. -/
def longest (ms : List Found) : Option Found :=
  ms.foldl (fun best m =>
    if best.all fun b => b.stop < m.stop then some m else best) none

/-- The longest match that starts at a place. -/
def matchAt? (r : Regex) (s : Array Spelled) (start : Nat) : Option Found :=
  longest (found s r.refers r ⟨start, []⟩)

/-- The longest match at the first place, from a given one on, where there is a match; with the
place where it starts. -/
def search? (r : Regex) (s : Array Spelled) (start : Nat) : Option (Nat × Found) :=
  (List.range (s.size + 1 - start)).findSome? fun i =>
    (matchAt? r s (start + i)).map fun m => (start + i, m)

/-- Whether there is a match anywhere. -/
def isFoundIn (r : Regex) (s : Array Spelled) : Bool := (search? r s 0).isSome

theorem forall_mem_keep {p : Found → Prop} {state : List Found × Array Bool} {m : Found}
    (hs : ∀ k ∈ state.1, p k) (hm : p m) : ∀ k ∈ (firsts.keep state m).1, p k := by
  intro k hk
  rw [firsts.keep] at hk
  split at hk
  · exact hs k hk
  · exact (List.mem_cons.1 hk).elim (fun e => e ▸ hm) (hs k)

/-- A list without its repetitions holds nothing new. -/
theorem forall_mem_firsts {p : Found → Prop} {whole : Bool} {size : Nat} {ms : List Found}
    (h : ∀ m ∈ ms, p m) : ∀ m ∈ firsts whole size ms, p m := by
  rw [firsts.eq_def]
  split
  · exact h
  · exact h
  · split
    · intro m hm
      rw [List.mem_reverse] at hm
      refine (List.foldlRecOn (motive := fun kept => ∀ k ∈ kept, p k) ms _ (by simp) ?_) m hm
      intro kept hk k hm
      split
      · exact hk
      · exact fun x hx => (List.mem_cons.1 hx).elim (fun e => e ▸ h k hm) (hk x)
    · intro m hm
      rw [List.mem_reverse] at hm
      refine (List.foldlRecOn (motive := fun (state : List Found × Array Bool) =>
        ∀ k ∈ state.1, p k) ms _ ?_ ?_) m hm
      · exact fun k hk => absurd hk List.not_mem_nil
      · exact fun _ hs k hm => forall_mem_keep hs (h k hm)

theorem forall_mem_reach {p : Found → Prop} {trail : Trail} {m : Found}
    (ht : ∀ k ∈ trail.reached, p k) (hm : p m) : ∀ k ∈ (trail.reach m).reached, p k :=
  fun k hk => (List.mem_cons.1 hk).elim (fun e => e ▸ hm) (ht k)

/-- Repeating a step reaches what the step keeps true of its start. -/
theorem forall_mem_repeatStep {p : Found → Prop} {whole : Bool} {most : Option Nat}
    {step : Found → List Found} (hstep : ∀ m, p m → ∀ k ∈ step m, p k) (fuel left : Nat)
    (trail : Trail) (m : Found) (ht : ∀ k ∈ trail.reached, p k) (hm : p m) :
    ∀ k ∈ (repeatStep whole most step fuel left trail m).reached, p k := by
  induction fuel generalizing left trail m with
  | zero => exact ht
  | succ fuel ih =>
    rw [repeatStep]
    split
    · exact ht
    split
    · exact forall_mem_reach (by simpa using ht) hm
    · refine forall_mem_reach ?_ hm
      refine List.foldlRecOn (motive := fun (trail : Trail) => ∀ k ∈ trail.reached, p k) (step m) _
        (by simpa using ht) ?_
      intro trail ht k hk
      split
      · exact ht
      · exact ih _ _ _ ht (hstep m hm k hk)

/-- No match goes beyond the end of the row. -/
theorem stop_le_of_mem_found (s : Array Spelled) (whole : Bool) (r : Regex) (m : Found)
    (hm : m.stop ≤ s.size) : ∀ k ∈ found s whole r m, k.stop ≤ s.size := by
  induction r generalizing m with
  | nothing => simpa [found] using hm
  | unit accepts =>
    intro k hk
    simp only [found] at hk
    split at hk
    · rename_i h
      rw [List.mem_singleton] at hk
      subst hk
      by_cases hlt : m.stop < s.size
      · exact hlt
      · rw [Array.getElem?_eq_none (by omega)] at h
        simp at h
    · simp at hk
  | place holds =>
    intro k hk
    simp only [found] at hk
    rw [List.mem_singleton.1 (List.mem_filter.1 hk).1]
    exact hm
  | both r t ihr iht =>
    rw [found]
    refine forall_mem_firsts fun k hk => ?_
    obtain ⟨a, ha, hk⟩ := List.mem_flatMap.1 hk
    exact iht a (ihr m hm a ha) k hk
  | either r t ihr iht =>
    rw [found]
    refine forall_mem_firsts fun k hk => ?_
    exact (List.mem_append.1 hk).elim (ihr m hm k) (iht m hm k)
  | repeated r least most ih =>
    simp only [found]
    refine forall_mem_firsts fun k hk => ?_
    obtain ⟨a, ha, hk⟩ := List.mem_flatMap.1 hk
    have hstart : ∀ a ∈ (List.range least).foldl (fun ms _ =>
        firsts whole s.size (ms.flatMap (found s whole r))) [m], a.stop ≤ s.size := by
      refine List.foldlRecOn (motive := fun (ms : List Found) => ∀ a ∈ ms, a.stop ≤ s.size) _ _
        (by simpa using hm) ?_
      intro ms hms _ _
      refine forall_mem_firsts fun b hb => ?_
      obtain ⟨c, hc, hb⟩ := List.mem_flatMap.1 hb
      exact ih c (hms c hc) b hb
    rw [repetitions, List.mem_reverse] at hk
    exact forall_mem_repeatStep (fun m hm k hk => ih m hm k hk) _ _ _ a
      (fun k hk => absurd hk List.not_mem_nil) (hstart a ha) k hk
  | group number r ih =>
    intro k hk
    simp only [found] at hk
    obtain ⟨a, ha, rfl⟩ := List.mem_map.1 hk
    exact ih m hm a ha
  | again number same =>
    intro k hk
    simp only [found] at hk
    split at hk
    · simp at hk
    · split at hk
      · rename_i h
        rw [List.mem_singleton] at hk
        subst hk
        simp only [Bool.and_eq_true, decide_eq_true_eq] at h
        exact h.1
      · simp at hk

end Regex

end Shell
end IconAssets
