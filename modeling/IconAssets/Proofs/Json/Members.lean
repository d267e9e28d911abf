import IconAssets.Json.Document
import Mathlib.Data.List.Induction

/-!
# Members of an object as they are written

A text may have several members with one key.  The reader of values keeps the last one only and
sorts the members by key.  Here the members of an object are read in the order in which they stand
in the text, all of them, and this is compared to what the reader of values makes of them.

* `Value.members?`: the members of an object in its text;
* `member?_ofMembers`: of several members with one key the last one counts;
* `parse_eq_object_iff`: a document that is an object.
-/

namespace IconAssets
namespace Json

/-- A member of an object that is put behind those before it. -/
def keepMember (value : Reader Value) (members : List (Text × Value)) (key : Text) :
    Reader (List (Text × Value)) := fun t =>
  match readColon t with
  | .error e => .error e
  | .ok u =>
    match value u with
    | .error e => .error e
    | .ok (v, rest) => .ok (members ++ [(key, v)], rest)

namespace Value

/-- The members of an object, in the order in which they stand in its text. -/
def members? (t : Text) : Option (List (Text × Value)) :=
  match skipSpace t with
  | [] => none
  | c :: u =>
    if c = '\x7b' then
      match foldMembers (keepMember (readValue (nestingLimit - 1))) [] u with
      | .error _ => none
      | .ok (members, rest) => if skipSpace rest = [] then some members else none
    else none

/-- The members of an object that has been written with the given ones. -/
def ofMembers (written : List (Text × Value)) : List (Text × Value) :=
  written.foldl (fun members m => setMember m.1 m.2 members) []

theorem ofMembers_append_singleton (written : List (Text × Value)) (key : Text) (v : Value) :
    ofMembers (written ++ [(key, v)]) = setMember key v (ofMembers written) := by
  unfold ofMembers
  rw [List.foldl_append]
  rfl

/-- Of several members with one key the last one counts. -/
theorem member?_ofMembers (key : Text) (written : List (Text × Value)) :
    member? key (ofMembers written) = member? key written.reverse := by
  induction written using List.reverseRecOn with
  | nil =>
      rfl
  | append_singleton written m ih =>
      obtain ⟨k, v⟩ := m
      rw [ofMembers_append_singleton, List.reverse_append]
      by_cases hk : k = key
      · subst hk
        simp [member?]
      · rw [member?_setMember_of_ne (Ne.symm hk), ih]
        simp [member?, hk]

end Value

section

variable {σ τ : Type} {member : σ → Text → Reader σ} {member' : τ → Text → Reader τ}

/-- Members are collected in the same way if each of them is. -/
theorem foldMembersFrom_map (f : σ → τ)
    (h : ∀ s key t, member' (f s) key t = (member s key t).map fun r => (f r.1, r.2))
    (room : Nat) (first : Bool) (s : σ) (t : Text) :
    foldMembersFrom member' room first (f s) t =
      (foldMembersFrom member room first s t).map fun r => (f r.1, r.2) := by
  induction room generalizing first s t with
  | zero =>
      rfl
  | succ room ih =>
      unfold foldMembersFrom
      cases nextMember first t with
      | error e =>
          rfl
      | ok next =>
          cases next with
          | done rest =>
              rfl
          | more u =>
              dsimp only
              cases readString u with
              | error e =>
                  rfl
              | ok r =>
                  dsimp only
                  rw [h]
                  cases member s r.1 r.2 with
                  | error e =>
                      rfl
                  | ok r' =>
                      exact ih false r'.1 r'.2

end

/-- What the reader of values collects are the members that are written. -/
theorem foldMembers_readMember (value : Reader Value) (t : Text) :
    foldMembers (readMember value) [] t =
      (foldMembers (keepMember value) [] t).map fun r => (Value.ofMembers r.1, r.2) := by
  refine foldMembersFrom_map Value.ofMembers (fun written key t => ?_) _ _ [] t
  unfold readMember keepMember
  cases readColon t with
  | error e =>
      rfl
  | ok u =>
      dsimp only
      cases value u with
      | error e =>
          rfl
      | ok r =>
          dsimp only [Except.map]
          rw [Value.ofMembers_append_singleton]

theorem map_eq_ok_iff {ε α β : Type} {x : Except ε α} {f : α → β} {b : β} :
    x.map f = .ok b ↔ ∃ a, x = .ok a ∧ f a = b := by
  cases x <;> simp [Except.map]

/-- A value that is an object begins with a brace. -/
theorem readValueWith_eq_object_iff {value : Reader Value} {t rest : Text}
    {members : List (Text × Value)} :
    readValueWith (some value) t = .ok (.object members, rest) ↔
      ∃ u, skipSpace t = '\x7b' :: u ∧
        foldMembers (readMember value) [] u = .ok (members, rest) := by
  unfold readValueWith
  cases skipSpace t with
  | nil =>
      simp
  | cons c u =>
      constructor
      · intro h
        split at h
        · simp at h
        · next d v heq =>
          obtain ⟨rfl, rfl⟩ := List.cons.inj heq
          split_ifs at h with h₁ h₂ h₃ h₄ h₅ h₆ h₇ <;> simp [map_eq_ok_iff] at h
          exact ⟨u, by rw [h₇], h⟩
      · rintro ⟨v, heq, h⟩
        obtain ⟨rfl, rfl⟩ := List.cons.inj heq
        dsimp only
        rw [if_neg (by decide), if_neg (by decide), if_neg (by decide), if_neg (by decide),
          if_neg (by decide), if_neg (by decide), if_pos rfl, h]
        rfl

theorem readAll_eq_ok_iff {α : Type} {read : Reader α} {t : Text} {x : α} :
    readAll read t = .ok x ↔ ∃ rest, read t = .ok (x, rest) ∧ skipSpace rest = [] := by
  unfold readAll
  cases read t with
  | error e =>
      simp
  | ok r =>
      obtain ⟨y, rest⟩ := r
      cases hrest : skipSpace rest <;> simp [hrest]

theorem Value.members?_eq_some_iff {t : Text} {written : List (Text × Value)} :
    Value.members? t = some written ↔ ∃ u rest, skipSpace t = '\x7b' :: u ∧
      foldMembers (keepMember (readValue (nestingLimit - 1))) [] u = .ok (written, rest) ∧
        skipSpace rest = [] := by
  unfold Value.members?
  constructor
  · intro h
    split at h
    · cases h
    · next c u hopen =>
      split at h
      · next hbrace =>
        subst hbrace
        split at h
        · cases h
        · next members rest hfold =>
          split at h
          · next hend =>
            obtain rfl := Option.some_inj.mp h
            exact ⟨u, rest, hopen, hfold, hend⟩
          · cases h
      · cases h
  · rintro ⟨u, rest, hopen, hfold, hend⟩
    rw [hopen]
    dsimp only
    rw [if_pos rfl, hfold]
    exact if_pos hend

/-- **A document is an object just if its text is one**, and then it has the members that are
written in the text. -/
theorem parse_eq_object_iff {t : Text} {members : List (Text × Value)} :
    Value.parse t = .ok (.object members) ↔
      ∃ written, Value.members? t = some written ∧ members = Value.ofMembers written := by
  have hread (rest : Text) : readValue nestingLimit t = .ok (.object members, rest) ↔
      ∃ u, skipSpace t = '\x7b' :: u ∧
        foldMembers (readMember (readValue (nestingLimit - 1))) [] u = .ok (members, rest) :=
    readValueWith_eq_object_iff
  unfold Value.parse
  simp only [readAll_eq_ok_iff, hread, foldMembers_readMember, map_eq_ok_iff,
    Value.members?_eq_some_iff]
  constructor
  · rintro ⟨rest, ⟨u, hopen, ⟨written, rest'⟩, hfold, heq⟩, hend⟩
    obtain ⟨rfl, rfl⟩ := Prod.mk.inj heq
    exact ⟨written, ⟨u, rest', hopen, hfold, hend⟩, rfl⟩
  · rintro ⟨written, ⟨u, rest, hopen, hfold, hend⟩, rfl⟩
    exact ⟨rest, ⟨u, hopen, (written, rest), hfold, rfl⟩, hend⟩

end Json
end IconAssets
