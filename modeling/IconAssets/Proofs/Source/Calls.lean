import IconAssets.Source.Reference
import Mathlib.Data.List.Infix
import Mathlib.Data.List.TakeWhile
import Mathlib.Data.Prod.Lex
import Mathlib.Order.Bounds.Basic

/-!
# Calls in a source text

A call names an icon.  Its parts stand in a fixed order, and blank characters may stand between
them.  Calls are looked for from the left, each search going on behind the call before, so a call
that begins inside another one would be passed over.  But no call begins inside another one, since
the first letter of a call occurs nowhere else in it.  So all calls are found, wherever they stand.

* `IsCall`: a text is a call;
* `callSite?_eq_some_iff`: what a text has to begin with;
* `callSitesFrom_eq_filterMap`: no call is passed over;
* `references_eq_calls`: the references of a source text are the names called in it, in the order of
  their first calls.
-/

namespace IconAssets
namespace Source

def IsBlank (t : Text) : Prop := ∀ c ∈ t, Text.isBlank c = true

/-- A provider's code, a dot, and some lower-case letters, digits, dots and hyphens. -/
def IsIconSpelling (name : Text) : Prop :=
  ∃ (p : Provider) (tail : Text), name = p.code ++ '.' :: tail ∧ tail ≠ [] ∧
    ∀ c ∈ tail, 'a' ≤ c ∧ c ≤ 'z' ∨ '0' ≤ c ∧ c ≤ '9' ∨ c = '.' ∨ c = '-'

/-- The label in front of an argument, with its colon, or nothing. -/
def IsLabel (t : Text) : Prop :=
  t = [] ∨ ∃ front behind, IsBlank front ∧ IsBlank behind ∧
    t = "icon".toList ++ (front ++ ':' :: behind)

/-- A text is a call with a name. -/
def IsCall (t name : Text) : Prop :=
  ∃ front inner label behind, IsBlank front ∧ IsBlank inner ∧ IsLabel label ∧ IsBlank behind ∧
    IsIconSpelling name ∧
      t = "Image".toList ++ (front ++ '(' :: (inner ++ (label ++
        '"' :: (name ++ '"' :: (behind ++ [')'])))))

/-- A name is called at a place of a source text, counted in its lines without comments. -/
def CalledAt (source : Text) (line column : ℕ) (name : Text) : Prop :=
  ∃ before call behind,
    (Text.pieces '\n' (stripComments source))[line]? = some (before ++ (call ++ behind)) ∧
      before.length = column ∧ IsCall call name

section

variable {t u v w name : Text}

theorem behind?_eq_some_iff : behind? w t = some u ↔ t = w ++ u := by
  unfold behind?
  constructor
  · intro h
    split at h
    · next hbegins =>
      obtain ⟨v, rfl⟩ := List.isPrefixOf_iff_prefix.mp hbegins
      rw [← Option.some_inj.mp h, List.drop_left]
    · cases h
  · rintro rfl
    rw [if_pos (List.isPrefixOf_iff_prefix.mpr (List.prefix_append w u)), List.drop_left]

theorem exists_blank_append_skipBlanks (t : Text) :
    ∃ front, IsBlank front ∧ t = front ++ Text.skipBlanks t :=
  ⟨t.takeWhile Text.isBlank, fun _ hc => List.mem_takeWhile_imp hc,
    List.takeWhile_append_dropWhile.symm⟩

/-- Blanks are skipped up to a character that is none. -/
theorem skipBlanks_append {c : Char} (hblank : IsBlank u) (hc : Text.isBlank c = false) (t : Text) :
    Text.skipBlanks (u ++ c :: t) = c :: t := by
  rw [Text.skipBlanks, List.dropWhile_append_of_pos hblank,
    List.dropWhile_cons_of_neg (by simp [hc])]

theorem behindLabel?_quote_iff :
    behindLabel? t = some ('"' :: u) ↔ ∃ label, IsLabel label ∧ t = label ++ '"' :: u := by
  have hquote : Text.isBlank '"' = false := by decide
  have hcolon : Text.isBlank ':' = false := by decide
  unfold behindLabel?
  constructor
  · intro h
    split at h
    · exact ⟨[], Or.inl rfl, Option.some_inj.mp h⟩
    · next v hlabel =>
      obtain ⟨r, hr, hskip⟩ := Option.map_eq_some_iff.mp h
      obtain ⟨front, hfront, hv⟩ := exists_blank_append_skipBlanks v
      obtain ⟨behind, hbehind, hrest⟩ := exists_blank_append_skipBlanks r
      rw [behind?_eq_some_iff.mp hr] at hv
      rw [hskip] at hrest
      refine ⟨"icon".toList ++ (front ++ ':' :: behind),
        Or.inr ⟨front, behind, hfront, hbehind, rfl⟩, ?_⟩
      rw [behind?_eq_some_iff.mp hlabel, hv, hrest]
      simp
  · rintro ⟨label, rfl | ⟨front, behind, hfront, hbehind, rfl⟩, rfl⟩
    · have hnone : behind? "icon".toList ('"' :: u) = none := rfl
      rw [List.nil_append, hnone]
    · have hsome : behind? "icon".toList ("icon".toList ++ (front ++ ':' :: behind) ++ '"' :: u) =
          some (front ++ ':' :: (behind ++ '"' :: u)) := behind?_eq_some_iff.mpr (by simp)
      have hbehind' : behind? [':'] (':' :: (behind ++ '"' :: u)) = some (behind ++ '"' :: u) :=
        behind?_eq_some_iff.mpr rfl
      rw [hsome]
      dsimp only
      rw [skipBlanks_append hfront hcolon, hbehind', Option.map_some,
        skipBlanks_append hbehind hquote]

theorem isNameChar_iff {c : Char} :
    isNameChar c = true ↔ 'a' ≤ c ∧ c ≤ 'z' ∨ '0' ≤ c ∧ c ≤ '9' ∨ c = '.' ∨ c = '-' := by
  have hlower : c.isLower = true ↔ 'a' ≤ c ∧ c ≤ 'z' := by
    change (decide ('a' ≤ c) && decide (c ≤ 'z')) = true ↔ _
    rw [Bool.and_eq_true, decide_eq_true_eq, decide_eq_true_eq]
  have hdigit : c.isDigit = true ↔ '0' ≤ c ∧ c ≤ '9' := by
    change (decide ('0' ≤ c) && decide (c ≤ '9')) = true ↔ _
    rw [Bool.and_eq_true, decide_eq_true_eq, decide_eq_true_eq]
  simp only [isNameChar, Bool.or_eq_true, decide_eq_true_eq, or_assoc, hlower, hdigit]

theorem isNameChar_of_mem_code {p : Provider} {c : Char} (h : c ∈ p.code) :
    isNameChar c = true := by
  have hall : ∀ p : Provider, p.code.all isNameChar = true := by
    intro p
    cases p <;> decide
  exact List.all_eq_true.mp (hall p) c h

theorem isIconSpelling_iff :
    IsIconSpelling name ↔ (∀ c ∈ name, isNameChar c = true) ∧ isIconName name = true := by
  unfold isIconName
  rw [List.any_eq_true]
  constructor
  · rintro ⟨p, tail, rfl, htail, hchars⟩
    constructor
    · intro c hc
      rcases List.mem_append.mp hc with hcode | hrest
      · exact isNameChar_of_mem_code hcode
      · rcases List.mem_cons.mp hrest with rfl | hrest
        · decide
        · exact isNameChar_iff.mpr (hchars c hrest)
    · refine ⟨p, by cases p <;> simp [Provider.all], ?_⟩
      have hpos := List.length_pos_iff.mpr htail
      rw [Bool.and_eq_true, List.isPrefixOf_iff_prefix, decide_eq_true_eq]
      refine ⟨⟨tail, by simp⟩, ?_⟩
      rw [List.length_append, List.length_cons]
      omega
  · rintro ⟨hchars, p, -, hp⟩
    rw [Bool.and_eq_true, List.isPrefixOf_iff_prefix, decide_eq_true_eq] at hp
    obtain ⟨⟨tail, rfl⟩, hlength⟩ := hp
    refine ⟨p, tail, by simp, ?_, fun c hc => isNameChar_iff.mp (hchars c (by simp [hc]))⟩
    rintro rfl
    simp at hlength

theorem skipBlanks_label (hblank : IsBlank u) (hlabel : IsLabel v) (t : Text) :
    Text.skipBlanks (u ++ (v ++ '"' :: t)) = v ++ '"' :: t := by
  rcases hlabel with rfl | ⟨front, behind, -, -, rfl⟩
  · exact skipBlanks_append hblank (by decide) t
  · exact skipBlanks_append hblank (by decide) _

theorem takeWhile_name (hname : ∀ c ∈ name, isNameChar c = true) (t : Text) :
    (name ++ '"' :: t).takeWhile isNameChar = name ∧
      (name ++ '"' :: t).dropWhile isNameChar = '"' :: t := by
  have hquote : isNameChar '"' = false := by decide
  rw [List.takeWhile_append_of_pos hname, List.dropWhile_append_of_pos hname,
    List.takeWhile_cons_of_neg (by simp [hquote]), List.dropWhile_cons_of_neg (by simp [hquote]),
    List.append_nil]
  exact ⟨rfl, rfl⟩

/-- A text begins with a call site exactly if it begins with a call. -/
theorem callSite?_eq_some_iff :
    callSite? t = some (name, u) ↔ ∃ call, IsCall call name ∧ t = call ++ u := by
  unfold callSite?
  simp only [Option.bind_eq_bind, Option.bind_eq_some_iff, behind?_eq_some_iff]
  constructor
  · rintro ⟨t₁, rfl, t₂, h₂, t₃, h₃, t₄, rfl, t₅, h₅, t₆, h₆, h⟩
    obtain ⟨front, hfront, h₁⟩ := exists_blank_append_skipBlanks t₁
    obtain ⟨inner, hinner, h₂'⟩ := exists_blank_append_skipBlanks t₂
    obtain ⟨label, hlabel, h₃'⟩ := behindLabel?_quote_iff.mp h₃
    obtain ⟨behind, hbehind, h₅'⟩ := exists_blank_append_skipBlanks t₅
    have h₄ : t₄ = t₄.takeWhile isNameChar ++ '"' :: t₅ := by
      conv => lhs; rw [← List.takeWhile_append_dropWhile (p := isNameChar) (l := t₄), h₅]
      rfl
    have hchars : ∀ c ∈ t₄.takeWhile isNameChar, isNameChar c = true := fun c hc =>
      List.mem_takeWhile_imp hc
    split at h
    · next hname =>
      obtain ⟨rfl, rfl⟩ := Prod.mk.inj (Option.some_inj.mp h)
      refine ⟨_, ⟨front, inner, label, behind, hfront, hinner, hlabel, hbehind,
        isIconSpelling_iff.mpr ⟨hchars, hname⟩, rfl⟩, ?_⟩
      generalize List.takeWhile isNameChar t₄ = name at h₄ ⊢
      rw [h₁, h₂, h₂', h₃', h₄, h₅', h₆]
      simp
    · cases h
  · rintro ⟨call, ⟨front, inner, label, behind, hfront, hinner, hlabel, hbehind, hname, rfl⟩, rfl⟩
    obtain ⟨hchars, hicon⟩ := isIconSpelling_iff.mp hname
    obtain ⟨htake, hdrop⟩ := takeWhile_name hchars (behind ++ ')' :: u)
    refine ⟨front ++ '(' :: (inner ++ (label ++ '"' :: (name ++ '"' :: (behind ++ ')' :: u)))),
      by simp, _, skipBlanks_append hfront (by decide) _, _, ?_,
      name ++ '"' :: (behind ++ ')' :: u), rfl, behind ++ ')' :: u, hdrop, u,
      skipBlanks_append hbehind (by decide) u, ?_⟩
    · have hskip := skipBlanks_label hinner hlabel (name ++ '"' :: (behind ++ ')' :: u))
      change behindLabel? (Text.skipBlanks (inner ++ (label ++ '"' :: (name ++ _)))) = _
      rw [hskip]
      exact behindLabel?_quote_iff.mpr ⟨label, hlabel, rfl⟩
    · rw [htake, if_pos hicon]

/-- The first letter of a call occurs nowhere else in it. -/
theorem IsCall.exists_tail (h : IsCall t name) : ∃ tail, t = 'I' :: tail ∧ 'I' ∉ tail := by
  obtain ⟨front, inner, label, behind, hfront, hinner, hlabel, hbehind, hname, rfl⟩ := h
  have hblank : ∀ {u : Text}, IsBlank u → 'I' ∉ u := fun hu hmem => absurd (hu 'I' hmem) (by decide)
  have hlabel' : 'I' ∉ label := by
    rcases hlabel with rfl | ⟨before, after, hbefore, hafter, rfl⟩
    · simp
    · simp [hblank hbefore, hblank hafter]
  have hname' : 'I' ∉ name := fun hmem =>
    absurd ((isIconSpelling_iff.mp hname).1 'I' hmem) (by decide)
  refine ⟨['m', 'a', 'g', 'e'] ++ _, rfl, ?_⟩
  simp [hblank hfront, hblank hinner, hlabel', hname', hblank hbehind]

/-- The name called at the beginning of a text. -/
def calledName? (t : Text) : Option Text := (callSite? t).map Prod.fst

theorem calledName?_eq_some_iff :
    calledName? t = some name ↔ ∃ call behind, t = call ++ behind ∧ IsCall call name := by
  unfold calledName?
  rw [Option.map_eq_some_iff]
  constructor
  · rintro ⟨⟨name, behind⟩, hsite, rfl⟩
    obtain ⟨call, hcall, ht⟩ := callSite?_eq_some_iff.mp hsite
    exact ⟨call, behind, ht, hcall⟩
  · rintro ⟨call, behind, ht, hcall⟩
    exact ⟨(name, behind), callSite?_eq_some_iff.mpr ⟨call, hcall, ht⟩, rfl⟩

theorem calledName?_of_ne {c : Char} (hc : c ≠ 'I') (t : Text) : calledName? (c :: t) = none := by
  by_contra hsome
  obtain ⟨name, hname⟩ := Option.ne_none_iff_exists'.mp hsome
  obtain ⟨call, behind, ht, hcall⟩ := calledName?_eq_some_iff.mp hname
  obtain ⟨tail, rfl, -⟩ := hcall.exists_tail
  exact hc (List.cons.inj ht).1

/-- No call begins where the first letter of calls does not occur. -/
theorem filterMap_tails_append (hu : 'I' ∉ u) (t : Text) :
    (u ++ t).tails.filterMap calledName? = t.tails.filterMap calledName? := by
  induction u with
  | nil =>
      rfl
  | cons c u ih =>
      have hc : c ≠ 'I' := fun hc => hu (by simp [hc])
      rw [List.cons_append, List.tails_cons, List.filterMap_cons_none (calledName?_of_ne hc _)]
      exact ih fun hmem => hu (List.mem_cons_of_mem c hmem)

/-- No call is passed over: the names found are those called at the beginning of any rest of the
text. -/
theorem callSitesFrom_eq_filterMap (skip : ℕ) (t : Text) :
    callSitesFrom skip t = (t.drop skip).tails.filterMap calledName? := by
  induction t generalizing skip with
  | nil =>
      rw [List.drop_nil]
      cases skip <;> rfl
  | cons c cs ih =>
      cases skip with
      | succ skip =>
          exact ih skip
      | zero =>
          rw [callSitesFrom, List.drop_zero, List.tails_cons, List.filterMap_cons]
          cases hsite : callSite? (c :: cs) with
          | none =>
              simp only [calledName?, hsite, Option.map_none]
              exact ih 0
          | some site =>
              obtain ⟨name, rest⟩ := site
              obtain ⟨call, hcall, heq⟩ := callSite?_eq_some_iff.mp hsite
              obtain ⟨tail, rfl, htail⟩ := hcall.exists_tail
              have hcs : cs = tail ++ rest := (List.cons.inj heq).2
              have hskip : cs.length - rest.length = tail.length := by simp [hcs]
              simp only [calledName?, hsite, Option.map_some, hskip]
              rw [ih, hcs, List.drop_left, ← filterMap_tails_append htail]

/-- A line that is a call holds no other call. -/
theorem callSites_of_isCall (h : IsCall t name) : callSites t = [name] := by
  obtain ⟨tail, rfl, htail⟩ := h.exists_tail
  have hname : calledName? ('I' :: tail) = some name :=
    calledName?_eq_some_iff.mpr ⟨_, [], (List.append_nil _).symm, h⟩
  have hnil : calledName? [] = none := rfl
  have hrest := filterMap_tails_append htail []
  rw [List.append_nil] at hrest
  rw [callSites, callSitesFrom_eq_filterMap, List.drop_zero, List.tails_cons,
    List.filterMap_cons_some hname, hrest]
  simp [hnil]

/-- What a scan finds is spelled like an icon. -/
theorem isIconSpelling_of_mem_references {source : Text} (h : name ∈ references source) :
    IsIconSpelling name := by
  obtain ⟨line, -, hline⟩ := List.mem_flatMap.mp (mem_firstOccurrences.mp h)
  rw [callSites, callSitesFrom_eq_filterMap] at hline
  obtain ⟨rest, -, hrest⟩ := List.mem_filterMap.mp hline
  obtain ⟨call, -, -, hcall⟩ := calledName?_eq_some_iff.mp hrest
  obtain ⟨-, -, -, -, -, -, -, -, hspelling, -⟩ := hcall
  exact hspelling

end

/-- The names called in a source text with their places: the line and the column in it. -/
def calls (source : Text) : List ((ℕ ×ₗ ℕ) × Text) :=
  (Text.pieces '\n' (stripComments source)).zipIdx.flatMap fun line =>
    line.1.tails.zipIdx.filterMap fun rest =>
      (calledName? rest.1).map fun name => (toLex (line.2, rest.2), name)

section

variable {source name : Text}

theorem map_snd_calls (source : Text) : (calls source).map Prod.snd = calledNames source := by
  have hline : ∀ line : Text × ℕ,
      (line.1.tails.zipIdx.filterMap fun rest =>
        (calledName? rest.1).map fun name => (toLex (line.2, rest.2), name)).map Prod.snd =
          callSites line.1 := by
    intro line
    rw [callSites, callSitesFrom_eq_filterMap, List.drop_zero, List.map_filterMap]
    conv => rhs; rw [← List.zipIdx_map_fst 0 line.1.tails, List.filterMap_map]
    congr 1
    funext rest
    rw [Option.map_map]
    exact congrFun Option.map_id (calledName? rest.1)
  unfold calls calledNames
  rw [List.map_flatMap]
  simp only [hline]
  conv => rhs; rw [← List.zipIdx_map_fst 0 (Text.pieces '\n' _), List.flatMap_map]

theorem mem_calls_iff {p : ℕ ×ₗ ℕ} :
    (p, name) ∈ calls source ↔ CalledAt source (ofLex p).1 (ofLex p).2 name := by
  unfold calls CalledAt
  simp only [List.mem_flatMap, List.mem_filterMap, List.mem_zipIdx_iff_getElem?,
    Option.map_eq_some_iff, Prod.mk.injEq]
  constructor
  · rintro ⟨⟨line, i⟩, hline, ⟨rest, k⟩, hrest, _, hname, rfl, rfl⟩
    obtain ⟨call, behind, rfl, hcall⟩ := calledName?_eq_some_iff.mp hname
    obtain ⟨hk, hdrop⟩ := List.getElem?_eq_some_iff.mp hrest
    rw [List.getElem_tails] at hdrop
    rw [List.length_tails] at hk
    dsimp only at hk hdrop
    refine ⟨line.take k, call, behind, ?_, List.length_take_of_le (by omega), hcall⟩
    change _ = some (line.take k ++ (call ++ behind))
    rw [← hdrop, List.take_append_drop]
    exact hline
  · rintro ⟨before, call, behind, hline, hcolumn, hcall⟩
    refine ⟨(_, _), hline, (call ++ behind, (ofLex p).2), ?_, name, ?_, rfl, rfl⟩
    · have hlength : (ofLex p).2 < (before ++ (call ++ behind)).tails.length := by
        rw [List.length_tails, List.length_append]
        omega
      refine List.getElem?_eq_some_iff.mpr ⟨hlength, ?_⟩
      rw [List.getElem_tails, ← hcolumn, List.drop_left]
    · exact calledName?_eq_some_iff.mpr ⟨call, behind, rfl, hcall⟩

theorem pairwise_zipIdx {α : Type} (l : List α) : l.zipIdx.Pairwise fun a b => a.2 < b.2 := by
  have hrange := @List.pairwise_lt_range' 0 l.length 1 (by simp)
  rwa [← List.zipIdx_map_snd, List.pairwise_map] at hrange

theorem pairwise_calls (source : Text) : (calls source).Pairwise fun a b => a.1 < b.1 := by
  unfold calls
  rw [List.pairwise_flatMap]
  constructor
  · intro line _
    rw [List.pairwise_filterMap]
    refine (pairwise_zipIdx line.1.tails).imp ?_
    intro rest rest' hlt a ha b hb
    obtain ⟨_, -, rfl⟩ := Option.map_eq_some_iff.mp ha
    obtain ⟨_, -, rfl⟩ := Option.map_eq_some_iff.mp hb
    exact Prod.Lex.toLex_lt_toLex.mpr (Or.inr ⟨rfl, hlt⟩)
  · refine (pairwise_zipIdx _).imp ?_
    intro line line' hlt a ha b hb
    obtain ⟨_, -, ha⟩ := List.mem_filterMap.mp ha
    obtain ⟨_, -, hb⟩ := List.mem_filterMap.mp hb
    obtain ⟨_, -, rfl⟩ := Option.map_eq_some_iff.mp ha
    obtain ⟨_, -, rfl⟩ := Option.map_eq_some_iff.mp hb
    exact Prod.Lex.toLex_lt_toLex.mpr (Or.inl hlt)

end

section

variable {P α : Type} [LinearOrder P] {l : List (P × α)}

theorem isLeast_cons_iff {e : P × α} {x : α} {p : P} (h : e.2 ≠ x) :
    IsLeast {p | (p, x) ∈ e :: l} p ↔ IsLeast {p | (p, x) ∈ l} p := by
  have hset : {p | (p, x) ∈ e :: l} = {p | (p, x) ∈ l} := by
    ext q
    change (q, x) ∈ e :: l ↔ (q, x) ∈ l
    rw [List.mem_cons, or_iff_right]
    rintro rfl
    exact h rfl
  rw [hset]

theorem isLeast_head {e : P × α} (h : ∀ a ∈ l, e.1 < a.1) :
    IsLeast {p | (p, e.2) ∈ e :: l} e.1 := by
  refine ⟨List.mem_cons_self, ?_⟩
  intro q hq
  rcases List.mem_cons.mp hq with hq | hq
  · rw [← hq]
  · exact (h _ hq).le

/-- What occurs in a list in increasing order has a first occurrence. -/
theorem exists_isLeast (h : l.Pairwise fun a b => a.1 < b.1) {x : α} (hx : x ∈ l.map Prod.snd) :
    ∃ p, IsLeast {p | (p, x) ∈ l} p := by
  induction l with
  | nil =>
      cases hx
  | cons e l ih =>
      obtain ⟨hhead, htail⟩ := List.pairwise_cons.mp h
      by_cases heq : e.2 = x
      · rw [← heq]
        exact ⟨e.1, isLeast_head hhead⟩
      · obtain ⟨p, hp⟩ := ih htail ((List.mem_cons.mp hx).resolve_left (Ne.symm heq))
        exact ⟨p, (isLeast_cons_iff heq).mpr hp⟩

/-- The items of a list in increasing order come in the order of their first occurrences. -/
theorem pairwise_firstOccurrences [DecidableEq α] (h : l.Pairwise fun a b => a.1 < b.1) :
    (firstOccurrences (l.map Prod.snd)).Pairwise fun x y =>
      ∃ p q, IsLeast {p | (p, x) ∈ l} p ∧ IsLeast {q | (q, y) ∈ l} q ∧ p < q := by
  induction l with
  | nil =>
      exact .nil
  | cons e l ih =>
      obtain ⟨hhead, htail⟩ := List.pairwise_cons.mp h
      have hother : ∀ {x : α}, x ∈ (firstOccurrences (l.map Prod.snd)).filter (· ≠ e.2) →
          e.2 ≠ x ∧ x ∈ l.map Prod.snd := by
        intro x hx
        obtain ⟨hmem, hne⟩ := List.mem_filter.mp hx
        exact ⟨fun heq => by simp [heq] at hne, mem_firstOccurrences.mp hmem⟩
      rw [List.map_cons, firstOccurrences, List.pairwise_cons]
      constructor
      · intro y hy
        obtain ⟨hne, hmem⟩ := hother hy
        obtain ⟨q, hq⟩ := exists_isLeast htail hmem
        exact ⟨e.1, q, isLeast_head hhead, (isLeast_cons_iff hne).mpr hq, hhead _ hq.1⟩
      · refine ((ih htail).filter _).imp_of_mem ?_
        rintro x y hx hy ⟨p, q, hp, hq, hlt⟩
        exact ⟨p, q, (isLeast_cons_iff (hother hx).1).mpr hp,
          (isLeast_cons_iff (hother hy).1).mpr hq, hlt⟩

end

/-- **The references of a source text are the names that are called in it**, at whatever place of
whatever line, each once and in the order of the first calls. -/
theorem references_eq_calls (source : Text) :
    (∀ name, name ∈ references source ↔ ∃ line column, CalledAt source line column name) ∧
      (references source).Nodup ∧
        (references source).Pairwise fun a b =>
          ∃ p q : ℕ ×ₗ ℕ, IsLeast {p | CalledAt source (ofLex p).1 (ofLex p).2 a} p ∧
            IsLeast {q | CalledAt source (ofLex q).1 (ofLex q).2 b} q ∧ p < q := by
  refine ⟨fun name => ?_, nodup_firstOccurrences _, ?_⟩
  · rw [references, mem_firstOccurrences, ← map_snd_calls, List.mem_map]
    constructor
    · rintro ⟨⟨p, name⟩, hmem, rfl⟩
      exact ⟨_, _, mem_calls_iff.mp hmem⟩
    · rintro ⟨line, column, hcalled⟩
      exact ⟨(toLex (line, column), name), mem_calls_iff.mpr hcalled, rfl⟩
  · have hordered := pairwise_firstOccurrences (pairwise_calls source)
    simp only [map_snd_calls, mem_calls_iff] at hordered
    exact hordered

end Source
end IconAssets
