import IconAssets.Proofs.Json.Scalars
import Mathlib.Data.List.Forall2
import Mathlib.Data.List.Nodup

/-!
# The indented layout is read back

A printed value is read back by a reader if this gives the value whatever space stands in front and
whatever the layout lets stand behind.  Arrays and objects are read back item by item and member by
member.

* `Reads`: a printed value and its reader;
* `readItems_indented`: the items of an array;
* `foldMembers_indented`: the members of an object;
* `readAll_of_reads`: a whole document.
-/

namespace IconAssets
namespace Json

/-- Only space. -/
def Blank (space : Text) : Prop := ∀ c ∈ space, isSpace c = true

/-- What may stand behind a value: nothing, a comma or a new line. -/
def EndsValue (rest : Text) : Prop := ∀ c, rest.head? = some c → c = ',' ∨ c = '\n'

/-- A printed value is read back by a reader. -/
structure Reads {α : Type} (read : Reader α) (t : Text) (x : α) : Prop where
  starts : ∃ c u, t = c :: u ∧ isSpace c = false ∧ c ≠ ']'
  reads : ∀ space rest, Blank space → EndsValue rest → read (space ++ t ++ rest) = .ok (x, rest)

theorem skipSpace_blank {space : Text} (h : Blank space) {c : Char} (hc : isSpace c = false)
    (t : Text) : skipSpace (space ++ c :: t) = c :: t := by
  rw [skipSpace_append h, skipSpace_cons_of_not hc]

theorem blank_newLine (depth : Nat) : Blank (newLine depth) := by
  intro c hc
  rcases List.mem_cons.mp hc with rfl | hc
  · rfl
  · rw [List.eq_of_mem_replicate hc]
    rfl

theorem blank_nil : Blank [] := fun _ hc => absurd hc List.not_mem_nil

theorem endsValue_nil : EndsValue [] := fun _ hc => absurd hc (by simp)

theorem endsValue_comma (t : Text) : EndsValue (',' :: t) := by
  intro c hc
  exact Or.inl (Option.some_inj.mp hc).symm

theorem endsValue_newLine (depth : Nat) (t : Text) : EndsValue (newLine depth ++ t) := by
  intro c hc
  exact Or.inr (Option.some_inj.mp hc).symm

/-- What may stand behind a value ends a number. -/
theorem EndsValue.endsNumber {rest : Text} (h : EndsValue rest) : EndsNumber rest := by
  cases rest with
  | nil =>
      exact ⟨rfl, rfl, by simp⟩
  | cons c t =>
      rcases h c rfl with rfl | rfl <;> exact ⟨rfl, rfl, by simp⟩

theorem reads_string (t : Text) : Reads readText (printString t) t where
  starts := ⟨'"', t.flatMap escapeChar ++ ['"'], rfl, by decide, by decide⟩
  reads space rest hspace _ := by
    unfold readText
    rw [List.append_assoc, printString, List.cons_append, List.cons_append,
      skipSpace_blank hspace (by decide)]
    dsimp only
    rw [if_pos rfl, List.append_assoc]
    exact readString_print t rest

theorem reads_word32 (n : UInt32) : Reads readWord32 (printInteger n.toNat) n where
  starts := by
    obtain ⟨d, ds, hds, hdigit⟩ := exists_digit_cons n.toNat
    refine ⟨d, ds, by simp [printInteger, hds], not_isSpace_of_isDigit hdigit, ?_⟩
    rintro rfl
    exact absurd hdigit (by decide)
  reads space rest hspace hrest := by
    have hread := readWord32_print (n := n) hrest.endsNumber
    have hskip : ∀ t, readWord32 (space ++ t) = readWord32 t := fun t => by
      unfold readWord32
      rw [skipSpace_append hspace]
    rw [List.append_assoc, hskip, hread]

section

variable {α : Type} {item : Reader α} {depth : Nat}

theorem endsValue_moreItems (vs : List Value) (rest : Text) :
    EndsValue (indentedMoreItems depth vs ++ rest) := by
  cases vs with
  | nil =>
      rw [indentedMoreItems, List.append_assoc]
      exact endsValue_newLine depth _
  | cons v vs =>
      rw [indentedMoreItems]
      exact endsValue_comma _

theorem readItemsFrom_more {vs : List Value} {xs : List α} {room : Nat}
    (h : List.Forall₂ (fun v x => Reads item (v.indented (depth + 1)) x) vs xs)
    (hroom : vs.length < room) (rest : Text) :
    readItemsFrom item room false (indentedMoreItems depth vs ++ rest) = .ok (xs, rest) := by
  induction h generalizing room with
  | nil =>
      cases room with
      | zero =>
          exact absurd hroom (Nat.not_lt_zero _)
      | succ room =>
          have hnext : nextItem false (newLine depth ++ ']' :: rest) = .ok (.done rest) := by
            unfold nextItem
            rw [skipSpace_blank (blank_newLine depth) (by decide)]
            rfl
          rw [indentedMoreItems, List.append_assoc, List.singleton_append, readItemsFrom, hnext]
  | @cons v x vs xs hv _ ih =>
      cases room with
      | zero =>
          exact absurd hroom (Nat.not_lt_zero _)
      | succ room =>
          obtain ⟨c, u, hstart, hspace, hbracket⟩ := hv.starts
          have hnext : nextItem false (indentedMoreItems depth (v :: vs) ++ rest) =
              .ok (.more (v.indented (depth + 1) ++ (indentedMoreItems depth vs ++ rest))) := by
            unfold nextItem
            rw [indentedMoreItems, List.cons_append, List.cons_append, List.cons_append,
              skipSpace_cons_of_not (by decide)]
            dsimp only
            rw [if_neg (by decide), if_neg (by decide), if_pos rfl, List.append_assoc,
              List.append_assoc, hstart, List.cons_append,
              skipSpace_blank (blank_newLine (depth + 1)) hspace]
            dsimp only
            rw [if_neg hbracket]
          have hitem := hv.reads [] (indentedMoreItems depth vs ++ rest) blank_nil
            (endsValue_moreItems vs rest)
          rw [List.nil_append] at hitem
          rw [readItemsFrom, hnext]
          dsimp only
          rw [hitem]
          dsimp only
          rw [ih (Nat.lt_of_succ_lt_succ hroom)]
          rfl

/-- An array takes more characters than it has items. -/
theorem length_lt_indentedMoreItems (vs : List Value) :
    vs.length < (indentedMoreItems depth vs).length := by
  induction vs with
  | nil =>
      simp [indentedMoreItems]
  | cons v vs ih =>
      simp only [indentedMoreItems, List.length_cons, List.length_append]
      omega

/-- The items of an array are read back. -/
theorem readItems_indented {vs : List Value} {xs : List α}
    (h : List.Forall₂ (fun v x => Reads item (v.indented (depth + 1)) x) vs xs) (rest : Text) :
    readItems item (indentedItems depth vs ++ rest) = .ok (xs, rest) := by
  unfold readItems
  cases h with
  | nil =>
      rfl
  | @cons v x vs xs hv hvs =>
      obtain ⟨c, u, hstart, hspace, hbracket⟩ := hv.starts
      have hnext : nextItem true (indentedItems depth (v :: vs) ++ rest) =
          .ok (.more (v.indented (depth + 1) ++ (indentedMoreItems depth vs ++ rest))) := by
        unfold nextItem
        rw [indentedItems, List.append_assoc, List.append_assoc, hstart, List.cons_append,
          skipSpace_blank (blank_newLine (depth + 1)) hspace]
        dsimp only
        rw [if_neg hbracket, if_pos rfl]
      have hroom : vs.length < (indentedItems depth (v :: vs) ++ rest).length := by
        have hlength := @length_lt_indentedMoreItems depth vs
        rw [indentedItems, List.length_append, List.length_append]
        omega
      have hitem := hv.reads [] (indentedMoreItems depth vs ++ rest) blank_nil
        (endsValue_moreItems vs rest)
      rw [List.nil_append] at hitem
      rw [readItemsFrom, hnext]
      dsimp only
      rw [hitem]
      dsimp only
      rw [readItemsFrom_more hvs hroom]
      rfl

/-- A printed array is read back. -/
theorem reads_list {vs : List Value} {xs : List α}
    (h : List.Forall₂ (fun v x => Reads item (v.indented (depth + 1)) x) vs xs) :
    Reads (readList item) ((Value.array vs).indented depth) xs where
  starts := ⟨'[', indentedItems depth vs, by rw [Value.indented], by decide, by decide⟩
  reads space rest hspace _ := by
    unfold readList
    rw [Value.indented, List.append_assoc, List.cons_append, skipSpace_blank hspace (by decide)]
    dsimp only
    rw [if_pos rfl]
    exact readItems_indented h rest

end

section

variable {σ : Type} {member : σ → Text → Reader σ} {depth : Nat} {s s' : σ}

/-- The members of an object, printed at a depth, are collected one after the other. -/
inductive Collects (member : σ → Text → Reader σ) (depth : Nat) :
    σ → List (Text × Value) → σ → Prop
  | nil (s : σ) : Collects member depth s [] s
  | cons {s s' s'' : σ} {key : Text} {v : Value} {ms : List (Text × Value)}
    (head : ∀ rest, EndsValue rest →
      member s key (": ".toList ++ v.indented (depth + 1) ++ rest) = .ok (s', rest))
    (tail : Collects member depth s' ms s'') : Collects member depth s ((key, v) :: ms) s''

theorem endsValue_moreMembers (ms : List (Text × Value)) (rest : Text) :
    EndsValue (indentedMoreMembers depth ms ++ rest) := by
  rcases ms with - | ⟨⟨key, v⟩, ms⟩
  · rw [indentedMoreMembers, List.append_assoc]
    exact endsValue_newLine depth _
  · rw [indentedMoreMembers]
    exact endsValue_comma _

theorem length_lt_indentedMoreMembers (ms : List (Text × Value)) :
    ms.length < (indentedMoreMembers depth ms).length := by
  induction ms with
  | nil =>
      simp [indentedMoreMembers]
  | cons m ms ih =>
      simp only [indentedMoreMembers, List.length_cons, List.length_append]
      omega

/-- The key of a printed member is read up to what stands behind its quote. -/
theorem readString_member {key : Text} {v : Value} (more : Text) :
    readString ((key.flatMap escapeChar ++ ['"']) ++ ": ".toList ++ v.indented (depth + 1) ++
      more) = .ok (key, ": ".toList ++ v.indented (depth + 1) ++ more) := by
  have hread := readString_print key (": ".toList ++ v.indented (depth + 1) ++ more)
  simp only [List.append_assoc, List.cons_append, List.nil_append] at hread ⊢
  exact hread

/-- The members behind the first one are collected. -/
theorem foldMembersFrom_more {ms : List (Text × Value)} {room : Nat}
    (h : Collects member depth s ms s') (hroom : ms.length < room) (rest : Text) :
    foldMembersFrom member room false s (indentedMoreMembers depth ms ++ rest) =
      .ok (s', rest) := by
  induction h generalizing room with
  | nil s =>
      cases room with
      | zero =>
          exact absurd hroom (Nat.not_lt_zero _)
      | succ room =>
          have hnext : nextMember false (newLine depth ++ '\x7d' :: rest) = .ok (.done rest) := by
            unfold nextMember
            rw [skipSpace_blank (blank_newLine depth) (by decide)]
            rfl
          rw [indentedMoreMembers, List.append_assoc, List.singleton_append, foldMembersFrom, hnext]
  | @cons s s' s'' key v ms head _ ih =>
      cases room with
      | zero =>
          exact absurd hroom (Nat.not_lt_zero _)
      | succ room =>
          have hnext : nextMember false (indentedMoreMembers depth ((key, v) :: ms) ++ rest) =
              .ok (.more ((key.flatMap escapeChar ++ ['"']) ++ ": ".toList ++
                v.indented (depth + 1) ++ (indentedMoreMembers depth ms ++ rest))) := by
            unfold nextMember
            rw [indentedMoreMembers, List.cons_append, List.cons_append, List.cons_append,
              List.cons_append, List.cons_append, skipSpace_cons_of_not (by decide)]
            dsimp only
            rw [if_neg (by decide), if_neg (by decide), if_pos rfl]
            simp only [List.append_assoc]
            rw [printString, List.cons_append, List.cons_append,
              skipSpace_blank (blank_newLine (depth + 1)) (by decide)]
            dsimp only
            rw [if_pos rfl]
            simp only [List.append_assoc]
          rw [foldMembersFrom, hnext]
          dsimp only
          rw [readString_member]
          dsimp only
          rw [head _ (endsValue_moreMembers ms rest)]
          dsimp only
          exact ih (Nat.lt_of_succ_lt_succ hroom)

/-- The members of an object are collected. -/
theorem foldMembers_indented {ms : List (Text × Value)} (h : Collects member depth s ms s')
    (rest : Text) :
    foldMembers member s (indentedMembers depth ms ++ rest) = .ok (s', rest) := by
  unfold foldMembers
  cases h with
  | nil s =>
      rfl
  | @cons s s' s'' key v ms head tail =>
      have hnext : nextMember true (indentedMembers depth ((key, v) :: ms) ++ rest) =
          .ok (.more ((key.flatMap escapeChar ++ ['"']) ++ ": ".toList ++
            v.indented (depth + 1) ++ (indentedMoreMembers depth ms ++ rest))) := by
        unfold nextMember
        rw [indentedMembers]
        simp only [List.append_assoc]
        rw [printString, List.cons_append, List.cons_append,
          skipSpace_blank (blank_newLine (depth + 1)) (by decide)]
        dsimp only
        rw [if_neg (by decide), if_pos rfl, if_pos trivial]
        simp only [List.append_assoc]
      have hroom : ms.length < (indentedMembers depth ((key, v) :: ms) ++ rest).length := by
        have hlength := @length_lt_indentedMoreMembers depth ms
        rw [indentedMembers, List.length_append, List.length_append]
        omega
      rw [foldMembersFrom, hnext]
      dsimp only
      rw [readString_member]
      dsimp only
      rw [head _ (endsValue_moreMembers ms rest)]
      dsimp only
      exact foldMembersFrom_more tail hroom rest

end

/-- Behind the key of a printed member there is a colon. -/
theorem readColon_cons (t : Text) : readColon (": ".toList ++ t) = .ok (' ' :: t) := by
  rfl

/-- A document that is one printed value is read back. -/
theorem readAll_of_reads {α : Type} {read : Reader α} {t : Text} {x : α} (h : Reads read t x) :
    readAll read t = .ok x := by
  have hread := h.reads [] [] blank_nil endsValue_nil
  rw [List.nil_append, List.append_nil] at hread
  unfold readAll
  rw [hread]
  rfl

/-!
## Printed records are read back

A record is printed as an object whose members are its fields, in the order of its shape.  It is
read back if each field is filled with the value that was printed for it; the keys of the fields
have to differ.

* `Fills`: a field and the value printed for it;
* `Restores`: all fields of a record, one after the other;
* `reads_record`: a printed record.
-/

section

variable {ρ : Type}

/-- Reading a printed value into a field takes a record to another one. -/
def Field.Fills (f : Field ρ) (t : Text) (r r' : ρ) : Prop :=
  ∀ space rest, Blank space → EndsValue rest → f.read r (space ++ t ++ rest) = .ok (r', rest)

/-- A field that is set to what its reader reads. -/
theorem Field.fills_of_reads {α : Type} {f : Field ρ} {read : Reader α} {t : Text} {x : α}
    {r : ρ} (set : α → ρ) (h : Reads read t x)
    (hf : ∀ u, f.read r u = (read u).map fun a => (set a.1, a.2)) : f.Fills t r (set x) := by
  intro space rest hspace hrest
  rw [hf, h.reads space rest hspace hrest]
  rfl

namespace Shape

/-- Reading the printed members of a record takes one record to another one, field by field. -/
inductive Restores (depth : Nat) : List (Field ρ) → List (Text × Value) → ρ → ρ → Prop
  | nil (r : ρ) : Restores depth [] [] r r
  | cons {f : Field ρ} {fs : List (Field ρ)} {v : Value} {ms : List (Text × Value)} {r r' r'' : ρ}
    (head : f.Fills (v.indented (depth + 1)) r r') (tail : Restores depth fs ms r' r'') :
    Restores depth (f :: fs) ((f.key, v) :: ms) r r''

variable {s : Shape ρ} {depth : Nat}

theorem find?_key {fields : List (Field ρ)} (hkeys : (fields.map Field.key).Nodup) {f : Field ρ}
    (hf : f ∈ fields) : fields.find? (fun g => g.key = f.key) = some f := by
  induction fields with
  | nil =>
      exact absurd hf List.not_mem_nil
  | cons g gs ih =>
      rw [List.map_cons, List.nodup_cons] at hkeys
      rcases List.mem_cons.mp hf with rfl | hf
      · exact List.find?_cons_of_pos (by simp)
      · have hne : g.key ≠ f.key := fun h => hkeys.1 (h ▸ List.mem_map_of_mem hf)
        rw [List.find?_cons_of_neg (by simp [hne]), ih hkeys.2 hf]

/-- A member with the key of a field that has not been read fills this field. -/
theorem readMember_of_fills {f : Field ρ} {t : Text} {r r' : ρ} {keys : List Text} {rest : Text}
    (hfind : s.fields.find? (fun g => g.key = f.key) = some f) (hnew : f.key ∉ keys)
    (h : f.Fills t r r') (hrest : EndsValue rest) :
    s.readMember (r, keys) f.key (": ".toList ++ t ++ rest) = .ok ((r', f.key :: keys), rest) := by
  have hspace : Blank [' '] := by
    intro c hc
    rw [List.mem_singleton.mp hc]
    rfl
  have hfill := h [' '] rest hspace hrest
  rw [List.singleton_append, List.cons_append] at hfill
  unfold readMember
  rw [hfind]
  dsimp only
  rw [if_neg hnew, List.append_assoc, readColon_cons]
  dsimp only
  rw [hfill]

/-- The members of a printed record are collected; the keys of their fields are kept. -/
theorem collects_of_restores {fs : List (Field ρ)} {ms : List (Text × Value)} {r r' : ρ}
    {keys : List Text} (h : Restores depth fs ms r r') (hkeys : (s.fields.map Field.key).Nodup)
    (hfs : ∀ f ∈ fs, f ∈ s.fields) (hdistinct : (fs.map Field.key).Nodup)
    (hnew : ∀ f ∈ fs, f.key ∉ keys) :
    Collects s.readMember depth (r, keys) ms (r', (fs.map Field.key).reverse ++ keys) := by
  induction h generalizing keys with
  | nil r =>
      exact Collects.nil _
  | @cons f fs v ms r r' r'' head tail ih =>
      rw [List.map_cons, List.nodup_cons] at hdistinct
      rw [List.map_cons, List.reverse_cons, List.append_assoc, List.singleton_append]
      refine Collects.cons (fun rest hrest => readMember_of_fills
        (find?_key hkeys (hfs f (by simp))) (hnew f (by simp)) head hrest) ?_
      refine ih (fun g hg => hfs g (List.mem_cons_of_mem _ hg)) hdistinct.2 fun g hg hmem => ?_
      rcases List.mem_cons.mp hmem with hsame | hmem
      · exact hdistinct.1 (hsame ▸ List.mem_map_of_mem hg)
      · exact hnew g (List.mem_cons_of_mem _ hg) hmem

/-- A printed record is read back. -/
theorem reads_record {ms : List (Text × Value)} {r : ρ} (hkeys : (s.fields.map Field.key).Nodup)
    (h : Restores depth s.fields ms s.blank r) :
    Reads s.read ((Value.object ms).indented depth) r where
  starts := ⟨'\x7b', indentedMembers depth ms, by rw [Value.indented], by decide, by decide⟩
  reads space rest hspace _ := by
    have hmembers := foldMembers_indented
      (collects_of_restores h hkeys (fun _ hf => hf) hkeys fun _ _ => List.not_mem_nil) rest
    rw [List.append_nil] at hmembers
    -- No required field is missing: all of them have been read.
    have hall : s.fields.find? (fun f =>
        f.required && !(f.key ∈ (s.fields.map Field.key).reverse)) = none := by
      rw [List.find?_eq_none]
      intro f hf
      have hkey : f.key ∈ (s.fields.map Field.key).reverse :=
        List.mem_reverse.mpr (List.mem_map_of_mem hf)
      simp [hkey]
    unfold read
    rw [Value.indented, List.append_assoc, List.cons_append, skipSpace_blank hspace (by decide)]
    dsimp only
    rw [if_neg (by decide), if_pos rfl, readMembers, hmembers]
    dsimp only
    rw [hall]

end Shape

end

end Json
end IconAssets
