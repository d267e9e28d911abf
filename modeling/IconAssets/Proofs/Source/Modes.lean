import IconAssets.Source.Reference
import Mathlib.Data.List.Infix

/-!
# Modes behind a text

Reading a source text ends in one of the modes.  What follows the text is read in this mode, as if
the text were not there, unless characters on both sides of the seam are read at once.

Two kinds of seams are safe.  Behind a newline nothing is read at once with it but the backslash in
front, so each line is read by itself where no comment and no literal is open.  And a comment that
opens in code, not behind a slash, opens whatever its body holds, so nothing in the body is seen
outside of it.

* `stripFrom_append`: reading goes on behind a safe seam in the mode that was reached;
* `lands_endMode`: the modes that are reached behind a newline;
* `stripComments_append_iff`: the lines behind which a text is read anew;
* `stripComments_lineComment`, `stripComments_blockComment`: what is left of a comment in code;
* `references_comment_body`: the body of a comment does not change the references.
-/

namespace IconAssets
namespace Source

/-- The mode in which reading a text ends that starts in the given mode. -/
def endMode : Mode → Text → Mode
  | m, [] => m
  | .code, '/' :: '/' :: cs => endMode .lineComment cs
  | .code, '/' :: '*' :: cs => endMode .blockComment cs
  | .code, '"' :: '"' :: '"' :: cs => endMode .longLiteral cs
  | .code, '"' :: cs => endMode .literal cs
  | .code, _ :: cs => endMode .code cs
  | .lineComment, '\n' :: cs => endMode .code cs
  | .lineComment, _ :: cs => endMode .lineComment cs
  | .blockComment, '*' :: '/' :: cs => endMode .code cs
  | .blockComment, _ :: cs => endMode .blockComment cs
  | .literal, '\\' :: _ :: cs => endMode .literal cs
  | .literal, '"' :: cs => endMode .code cs
  | .literal, '\n' :: cs => endMode .code cs
  | .literal, _ :: cs => endMode .literal cs
  | .longLiteral, '\\' :: _ :: cs => endMode .longLiteral cs
  | .longLiteral, '"' :: '"' :: '"' :: cs => endMode .code cs
  | .longLiteral, _ :: cs => endMode .longLiteral cs

/-- The mode in which reading a source text ends. -/
def modeAfter (source : Text) : Mode := endMode .code source

/-- Two characters may be read at once where reading ends in a mode between them. -/
def Mode.pairs : Mode → Char → Char → Bool
  | .code, c, d => c = '/' && (d = '/' || d = '*') || c = '"' && d = '"'
  | .lineComment, _, _ => false
  | .blockComment, c, d => c = '*' && d = '/'
  | .literal, c, d | .longLiteral, c, d => c = '\\' || c = '"' && d = '"'

section

variable {m : Mode} {t u : Text} {d e f : Char}

theorem getLast?_of_cons (h : t.getLast? = some d) : (e :: t).getLast? = some d := by
  simp [List.getLast?_cons, h]

/-- What does not begin with a character does not begin with it when more is put behind. -/
theorem append_ne_cons (hempty : t = [] → d ≠ e) (hnext : ∀ v, t ≠ e :: v) (v : Text) :
    t ++ d :: u ≠ e :: v := by
  intro heq
  rcases List.append_eq_cons_iff.mp heq with ⟨hnil, hd⟩ | ⟨rest, ht, -⟩
  · exact hempty hnil (List.cons.inj hd).1
  · exact hnext rest ht

theorem append_ne_cons_cons (hempty : t = [] → d ≠ e) (hone : t = [e] → d ≠ f)
    (hnext : ∀ v, t ≠ e :: f :: v) (v : Text) : t ++ d :: u ≠ e :: f :: v := by
  intro heq
  rcases List.append_eq_cons_iff.mp heq with ⟨hnil, hd⟩ | ⟨rest, rfl, hrest⟩
  · exact hempty hnil (List.cons.inj hd).1
  · refine append_ne_cons (fun hnil => hone (by rw [hnil])) (fun w hw => ?_) v hrest.symm
    exact hnext w (by rw [hw])

/-- **Reading goes on in the mode that was reached** unless the last character of the text is read
at once with what stands behind it. -/
theorem stripFrom_append (h : ∀ c, t.getLast? = some c → (endMode m t).pairs c d = false) :
    stripFrom m (t ++ d :: u) = stripFrom m t ++ stripFrom (endMode m t) (d :: u) := by
  fun_induction endMode m t with
  | case1 m =>
      simp
  -- A word that is read as a whole does not depend on what stands behind it.
  | case7 cs ih | case12 cs ih | case13 cs ih =>
      simp [stripFrom, ih fun c hc => h c (getLast?_of_cons hc)]
  | case2 cs ih | case3 cs ih | case9 cs ih | case11 _ cs ih | case15 _ cs ih =>
      simp [stripFrom, ih fun c hc => h c (getLast?_of_cons (getLast?_of_cons hc))]
  | case4 cs ih | case16 cs ih =>
      simp [stripFrom,
        ih fun c hc => h c (getLast?_of_cons (getLast?_of_cons (getLast?_of_cons hc)))]
  -- A character that is read alone must not begin a word now.
  | case5 cs hlong ih =>
      have hlong' : ∀ v, cs ++ d :: u ≠ '"' :: '"' :: v := append_ne_cons_cons
        (by rintro rfl rfl; exact absurd (h '"' rfl) (by decide))
        (by rintro rfl rfl; exact absurd (h '"' rfl) (by decide)) hlong
      rw [List.cons_append, stripFrom, stripFrom, ih fun c hc => h c (getLast?_of_cons hc),
        List.cons_append]
      · exact hlong
      · exact hlong'
  | case6 c cs hline hblock hlong hquote ih =>
      have hline' : ∀ v, c = '/' → cs ++ d :: u ≠ '/' :: v := by
        rintro v rfl
        exact append_ne_cons (by rintro rfl rfl; exact absurd (h '/' rfl) (by decide))
          (fun v => hline v rfl) v
      have hblock' : ∀ v, c = '/' → cs ++ d :: u ≠ '*' :: v := by
        rintro v rfl
        exact append_ne_cons (by rintro rfl rfl; exact absurd (h '/' rfl) (by decide))
          (fun v => hblock v rfl) v
      rw [List.cons_append, stripFrom, stripFrom, ih fun c hc => h c (getLast?_of_cons hc),
        List.cons_append]
      · exact hline
      · exact hblock
      · exact hlong
      · exact hquote
      · exact hline'
      · exact hblock'
      · exact fun v hc => absurd hc hquote
      · exact hquote
  | case8 c cs hnewline ih =>
      simp [stripFrom, ih fun c hc => h c (getLast?_of_cons hc)]
  | case10 c cs hclose ih =>
      have hclose' : ∀ v, c = '*' → cs ++ d :: u ≠ '/' :: v := by
        rintro v rfl
        exact append_ne_cons (by rintro rfl rfl; exact absurd (h '*' rfl) (by decide))
          (fun v => hclose v rfl) v
      have hrest := ih fun c hc => h c (getLast?_of_cons hc)
      by_cases hnewline : c = '\n'
      · subst hnewline
        simp [stripFrom, hrest]
      · rw [List.cons_append, stripFrom, stripFrom, hrest]
        · exact hclose
        · exact hnewline
        · exact hclose'
        · exact hnewline
  | case14 c cs hescape hquote hnewline ih =>
      have hplain : c ≠ '\\' := by
        rintro rfl
        cases cs with
        | nil =>
            exact absurd (h '\\' rfl) (by simp [endMode, Mode.pairs])
        | cons e cs =>
            exact hescape e cs rfl rfl
      rw [List.cons_append, stripFrom, stripFrom, ih fun c hc => h c (getLast?_of_cons hc),
        List.cons_append]
      · exact hescape
      · exact hquote
      · exact hnewline
      · exact fun e v hc => absurd hc hplain
      · exact hquote
      · exact hnewline
  | case17 c cs hescape hclose ih =>
      have hplain : c ≠ '\\' := by
        rintro rfl
        cases cs with
        | nil =>
            exact absurd (h '\\' rfl) (by simp [endMode, Mode.pairs])
        | cons e cs =>
            exact hescape e cs rfl rfl
      have hclose' : ∀ v, c = '"' → cs ++ d :: u ≠ '"' :: '"' :: v := by
        rintro v rfl
        exact append_ne_cons_cons (by rintro rfl rfl; exact absurd (h '"' rfl) (by decide))
          (by rintro rfl rfl; exact absurd (h '"' rfl) (by decide)) (fun v => hclose v rfl) v
      rw [List.cons_append, stripFrom, stripFrom, ih fun c hc => h c (getLast?_of_cons hc),
        List.cons_append]
      · exact hescape
      · exact hclose
      · exact fun e v hc => absurd hc hplain
      · exact hclose'

/-- A newline is not read at once with what stands behind it. -/
theorem stripFrom_append_of_newline (h : t.getLast? = some '\n') (u : Text) :
    stripFrom m (t ++ u) = stripFrom m t ++ stripFrom (endMode m t) u := by
  cases u with
  | nil =>
      simp
  | cons d u =>
      refine stripFrom_append fun c hc => ?_
      obtain rfl : '\n' = c := Option.some_inj.mp (h.symm.trans hc)
      cases endMode m t <;> simp [Mode.pairs]

/-- A mode that is not the one of a comment on one line, and that of a literal on one line only
behind an escaped newline. -/
structure Lands (m : Mode) (t : Text) : Prop where
  not_lineComment : m ≠ .lineComment
  escaped : m = .literal → ['\\', '\n'] <:+ t

theorem Lands.append (word : Text) (ih : t.getLast? = some '\n' → Lands m t)
    (h : (word ++ t).getLast? = some '\n') (hempty : t = [] → Lands m word) :
    Lands m (word ++ t) := by
  by_cases ht : t = []
  · subst ht
    simpa using hempty rfl
  · rw [List.getLast?_append_of_ne_nil _ ht] at h
    exact ⟨(ih h).not_lineComment, fun hm =>
      ((ih h).escaped hm).trans (List.suffix_append word t)⟩

/-- Behind a newline, reading is in no comment on one line, and in a literal on one line only if a
backslash has taken the newline. -/
theorem lands_endMode (h : t.getLast? = some '\n') : Lands (endMode m t) t := by
  fun_induction endMode m t with
  | case1 m =>
      cases h
  | case5 cs _ ih | case12 cs ih =>
      exact Lands.append [_] ih h (by rintro rfl; cases h)
  | case2 cs ih | case3 cs ih | case9 cs ih =>
      exact Lands.append [_, _] ih h (by rintro rfl; cases h)
  | case4 cs ih | case16 cs ih =>
      exact Lands.append [_, _, _] ih h (by rintro rfl; cases h)
  | case7 cs ih | case13 cs ih =>
      exact Lands.append [_] ih h (by rintro rfl; constructor <;> simp [endMode])
  | case6 c cs _ _ _ _ ih | case10 c cs _ ih | case17 c cs _ _ ih =>
      exact Lands.append [_] ih h (by rintro rfl; constructor <;> simp [endMode])
  | case8 c cs hnewline ih | case14 c cs _ _ hnewline ih =>
      refine Lands.append [_] ih h ?_
      rintro rfl
      exact absurd (by simpa using h) hnewline
  | case11 c cs ih | case15 c cs ih =>
      refine Lands.append [_, _] ih h ?_
      rintro rfl
      obtain rfl : c = '\n' := by simpa using h
      constructor <;> simp [endMode]

end

/-- **A line that ends outside of block comments and literals between triple quotes does not change
how the next one is read, unless a literal on one line is still open**; and then the line ends in a
backslash, which has taken the newline into the literal, and the literal goes on in the next
line. -/
theorem stripComments_append_iff {a : Text} (hline : a.getLast? = some '\n')
    (hblock : modeAfter a ≠ .blockComment) (hlong : modeAfter a ≠ .longLiteral) :
    ((∀ b, stripComments (a ++ b) = stripComments a ++ stripComments b) ↔
        modeAfter a ≠ .literal) ∧
      (modeAfter a = .literal → ['\\', '\n'] <:+ a ∧
        ∀ b, stripComments (a ++ b) = stripComments a ++ stripFrom .literal b) := by
  have happend : ∀ b, stripComments (a ++ b) = stripComments a ++ stripFrom (modeAfter a) b :=
    fun b => stripFrom_append_of_newline hline b
  have hlands : Lands (modeAfter a) a := lands_endMode hline
  constructor
  · constructor
    · intro hanew hliteral
      have hopen := happend ['/', '/']
      rw [hanew, hliteral] at hopen
      exact absurd (List.append_cancel_left hopen) (by decide)
    · intro hliteral b
      have hcode : modeAfter a = .code := by
        cases hmode : modeAfter a with
        | code =>
            rfl
        | lineComment =>
            exact absurd hmode hlands.not_lineComment
        | blockComment =>
            exact absurd hmode hblock
        | literal =>
            exact absurd hmode hliteral
        | longLiteral =>
            exact absurd hmode hlong
      rw [happend, hcode]
      rfl
  · intro hliteral
    exact ⟨hlands.escaped hliteral, fun b => by rw [happend, hliteral]⟩

/-- A literal that lacks its closing quote, with an escaped quote and a comment mark in it, does not
reach into the next line. -/
theorem stripComments_append_iff_unclosed :
    ("/*\"*/ \"\\\" // it's\n".toList.getLast? = some '\n' ∧
        modeAfter "/*\"*/ \"\\\" // it's\n".toList ≠ .blockComment ∧
        modeAfter "/*\"*/ \"\\\" // it's\n".toList ≠ .longLiteral) ∧
      ∀ b, stripComments ("/*\"*/ \"\\\" // it's\n".toList ++ b) =
        stripComments "/*\"*/ \"\\\" // it's\n".toList ++ stripComments b :=
  ⟨by decide, (stripComments_append_iff (by decide) (by decide) (by decide)).1.mpr (by decide)⟩

/-- Behind a backslash, a literal that lacks its closing quote goes on in the next line, where a
comment is taken for a part of it. -/
theorem stripComments_append_escaped :
    "\"\\\n".toList.getLast? = some '\n' ∧ modeAfter "\"\\\n".toList ≠ .blockComment ∧
      modeAfter "\"\\\n".toList ≠ .longLiteral ∧
        stripComments ("\"\\\n".toList ++ "// x".toList) = "\"\\\n// x".toList ∧
          stripComments "\"\\\n".toList ++ stripComments "// x".toList = "\"\\\n".toList := by
  decide

section

variable {pre post x y : Text}

theorem stripFrom_lineComment (hx : '\n' ∉ x) (t : Text) :
    stripFrom .lineComment (x ++ '\n' :: t) = '\n' :: stripFrom .code t := by
  induction x with
  | nil =>
      rfl
  | cons c x ih =>
      obtain ⟨hc, hx⟩ := not_or.mp (mt List.mem_cons.mpr hx)
      rw [List.cons_append, stripFrom, ih hx]
      exact Ne.symm hc

theorem stripFrom_blockComment (hx : ¬['*', '/'] <:+: x) (t : Text) :
    stripFrom .blockComment (x ++ '*' :: '/' :: t) =
      List.replicate (x.count '\n') '\n' ++ stripFrom .code t := by
  induction x with
  | nil =>
      rfl
  | cons c x ih =>
      have hrest := ih fun hclose => hx (List.infix_cons hclose)
      have hclose : ∀ v, c = '*' → x ++ '*' :: '/' :: t ≠ '/' :: v := by
        rintro v rfl
        refine append_ne_cons (fun _ => by decide) (fun w hw => hx ?_) v
        exact ⟨[], w, by rw [hw]; rfl⟩
      by_cases hnewline : c = '\n'
      · subst hnewline
        rw [List.cons_append, stripFrom, hrest, List.count_cons_self, List.replicate_succ,
          List.cons_append]
      · rw [List.cons_append, stripFrom, hrest, List.count_cons_of_ne hnewline]
        · exact hclose
        · exact hnewline

/-- A comment mark behind code is read by itself. -/
theorem stripComments_slash (hcode : modeAfter pre = .code) (hslash : pre.getLast? ≠ some '/')
    (t : Text) : stripComments (pre ++ '/' :: t) = stripComments pre ++ stripComments ('/' :: t) := by
  have happend := @stripFrom_append .code pre t '/' fun c hc => by
    have hne : c ≠ '/' := fun heq => hslash (heq ▸ hc)
    change (modeAfter pre).pairs c '/' = false
    rw [hcode]
    simp [Mode.pairs, hne]
  change stripFrom .code _ = stripFrom .code pre ++ stripFrom (modeAfter pre) _ at happend
  rwa [hcode] at happend

theorem stripComments_lineComment (hcode : modeAfter pre = .code)
    (hslash : pre.getLast? ≠ some '/') (hx : '\n' ∉ x) :
    stripComments (pre ++ '/' :: '/' :: (x ++ '\n' :: post)) =
      stripComments pre ++ '\n' :: stripComments post := by
  rw [stripComments_slash hcode hslash]
  exact congrArg (stripComments pre ++ ·) (stripFrom_lineComment hx post)

theorem stripComments_blockComment (hcode : modeAfter pre = .code)
    (hslash : pre.getLast? ≠ some '/') (hx : ¬['*', '/'] <:+: x) :
    stripComments (pre ++ '/' :: '*' :: (x ++ '*' :: '/' :: post)) =
      stripComments pre ++ ' ' :: (List.replicate (x.count '\n') '\n' ++ stripComments post) := by
  rw [stripComments_slash hcode hslash]
  exact congrArg (stripComments pre ++ ' ' :: ·) (stripFrom_blockComment hx post)

end

/-- **Nothing in a comment changes the references of a source text**, whatever stands in front and
behind: of a comment on one line the body does not matter at all, and of a block comment only the
number of its newlines. -/
theorem references_comment_body {pre post : Text} (hcode : modeAfter pre = .code)
    (hslash : pre.getLast? ≠ some '/') :
    (∀ x y, '\n' ∉ x → '\n' ∉ y →
        references (pre ++ '/' :: '/' :: (x ++ '\n' :: post)) =
          references (pre ++ '/' :: '/' :: (y ++ '\n' :: post))) ∧
      ∀ x y, ¬['*', '/'] <:+: x → ¬['*', '/'] <:+: y → x.count '\n' = y.count '\n' →
        references (pre ++ '/' :: '*' :: (x ++ '*' :: '/' :: post)) =
          references (pre ++ '/' :: '*' :: (y ++ '*' :: '/' :: post)) := by
  constructor
  · intro x y hx hy
    unfold references calledNames
    rw [stripComments_lineComment hcode hslash hx, stripComments_lineComment hcode hslash hy]
  · intro x y hx hy hcount
    unfold references calledNames
    rw [stripComments_blockComment hcode hslash hx, stripComments_blockComment hcode hslash hy,
      hcount]

/-- Quotes, a backslash, a call and the marks of comments stand in the bodies, in front of the
comment a literal with such marks, and behind it a call. -/
theorem references_comment_body_quotes :
    (modeAfter "\"/*\" ".toList = .code ∧ "\"/*\" ".toList.getLast? ≠ some '/' ∧
        '\n' ∉ "\"\"\" Image(\"ph.a\") /* \\".toList ∧ '\n' ∉ "*/".toList ∧
          ¬['*', '/'] <:+: "// \"\"\"\n\\*".toList ∧
            ¬['*', '/'] <:+: "/\nImage(\"ph.a\")".toList) ∧
      references ("\"/*\" ".toList ++ '/' :: '/' ::
          ("\"\"\" Image(\"ph.a\") /* \\".toList ++ '\n' :: "Image(\"ph.b\")".toList)) =
        references ("\"/*\" ".toList ++ '/' :: '/' ::
          ("*/".toList ++ '\n' :: "Image(\"ph.b\")".toList)) ∧
      references ("\"/*\" ".toList ++ '/' :: '*' ::
          ("// \"\"\"\n\\*".toList ++ '*' :: '/' :: "Image(\"ph.b\")".toList)) =
        references ("\"/*\" ".toList ++ '/' :: '*' ::
          ("/\nImage(\"ph.a\")".toList ++ '*' :: '/' :: "Image(\"ph.b\")".toList)) := by
  have hbody := @references_comment_body "\"/*\" ".toList "Image(\"ph.b\")".toList (by decide)
    (by decide)
  exact ⟨by decide, hbody.1 _ _ (by decide) (by decide),
    hbody.2 _ _ (by decide) (by decide) (by decide)⟩

end Source
end IconAssets
