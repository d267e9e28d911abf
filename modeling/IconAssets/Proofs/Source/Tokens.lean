import IconAssets.Source.Comment
import Mathlib.Data.List.Basic

/-!
# Tokens of a source text

A source text is cut from the left into tokens: comments, string literals, and all other characters
one by one.  A comment or a literal goes up to the first word that closes it, or else to the end of
the text.  In a literal a backslash takes the next character with it, and what it takes does not
close the literal.

Here the tokens are described by what they begin and end with, without reading the text step by
step.  Removing the comments of a text is the same as replacing its tokens one by one.

* `Span.Reaches`: how far a comment or a literal goes;
* `Tokens`: the tokens of a text;
* `Span.exists_reaches`: what reading step by step leaves of a comment or a literal;
* `stripComments_eq_left`: each text has one row of tokens, and what is left of them is what is left
  of the text.
-/

namespace IconAssets
namespace Source

/-- A text that does not end behind a backslash which takes the next character with it. -/
inductive Whole : Text → Prop
  | nil : Whole []
  | escape (c : Char) {t : Text} : Whole t → Whole ('\\' :: c :: t)
  | plain {c : Char} {t : Text} : c ≠ '\\' → Whole t → Whole (c :: t)

/-- The tokens that are more than one character. -/
inductive Span where
  | lineComment
  | blockComment
  | longLiteral
  | literal
  deriving DecidableEq, Repr

namespace Span

def opening : Span → Text
  | .lineComment => ['/', '/']
  | .blockComment => ['/', '*']
  | .longLiteral => ['"', '"', '"']
  | .literal => ['"']

def closings : Span → List Text
  | .lineComment => [['\n']]
  | .blockComment => [['*', '/']]
  | .longLiteral => [['"', '"', '"']]
  | .literal => [['"'], ['\n']]

/-- Whether the closing word is a part of the token. -/
def takesClosing : Span → Bool
  | .lineComment => false
  | .blockComment | .longLiteral | .literal => true

/-- Whether a backslash takes the next character with it. -/
def hasEscapes : Span → Bool
  | .lineComment | .blockComment => false
  | .longLiteral | .literal => true

/-- A text begins with a token of this kind.  Three quotes do not begin a literal on one line. -/
def Opens (s : Span) (t : Text) : Prop :=
  s.opening <+: t ∧ (s = .literal → ¬longLiteral.opening <+: t)

/-- A closing word stands behind the front part of a text and is not escaped. -/
structure ClosesAt (s : Span) (t front closing : Text) : Prop where
  mem : closing ∈ s.closings
  here : front ++ closing <+: t
  whole : s.hasEscapes = true → Whole front

/-- How far a token goes in the text behind its opening word: up to the first word that closes it,
or to the end of the text if there is none. -/
def Reaches (s : Span) (t inner rest : Text) : Prop :=
  t = inner ++ rest ∧
    ((∃ front closing, s.ClosesAt t front closing ∧
        (∀ front' closing', s.ClosesAt t front' closing' → front.length ≤ front'.length) ∧
          inner = if s.takesClosing then front ++ closing else front) ∨
      (∀ front closing, ¬s.ClosesAt t front closing) ∧ rest = [])

end Span

/-- A comment or a literal, with what stands behind its opening word, or another character. -/
inductive Token where
  | span (s : Span) (inner : Text)
  | single (c : Char)
  deriving DecidableEq, Repr

namespace Token

def text : Token → Text
  | .span s inner => s.opening ++ inner
  | .single c => [c]

/-- What is left of a token: nothing of a line comment, a space and the newlines of a block comment,
and all of the others. -/
def left : Token → Text
  | .span .lineComment _ => []
  | .span .blockComment inner => ' ' :: List.replicate (inner.count '\n') '\n'
  | token => token.text

end Token

/-- The tokens of a text, from the left. -/
inductive Tokens : Text → List Token → Prop
  | nil : Tokens [] []
  | span {s : Span} {t inner rest : Text} {ts : List Token} : s.Opens t →
      t = s.opening ++ (inner ++ rest) → s.Reaches (inner ++ rest) inner rest → Tokens rest ts →
      Tokens t (.span s inner :: ts)
  | single {c : Char} {t : Text} {ts : List Token} : (∀ s : Span, ¬s.Opens (c :: t)) →
      Tokens t ts → Tokens (c :: t) (.single c :: ts)

theorem Whole.of_escape {c : Char} {t : Text} (h : Whole ('\\' :: c :: t)) : Whole t := by
  cases h with
  | escape _ h =>
      exact h
  | plain hne _ =>
      exact absurd rfl hne

theorem Whole.of_plain {c : Char} {t : Text} (hc : c ≠ '\\') (h : Whole (c :: t)) : Whole t := by
  cases h with
  | escape _ _ =>
      exact absurd rfl hc
  | plain _ h =>
      exact h

theorem not_whole_backslash : ¬Whole ['\\'] := by
  intro h
  cases h with
  | plain hne _ =>
      exact hne rfl

namespace Span

variable {s : Span} {t inner rest front closing : Text}

theorem ne_nil_of_mem_closings (h : closing ∈ s.closings) : closing ≠ [] := by
  rintro rfl
  cases s <;> simp [closings] at h

theorem length_eq_of_mem_closings {closing' : Text} (h : closing ∈ s.closings)
    (h' : closing' ∈ s.closings) : closing.length = closing'.length := by
  cases s with
  | literal =>
      rcases List.mem_pair.mp h with rfl | rfl <;>
        rcases List.mem_pair.mp h' with rfl | rfl <;> rfl
  | _ =>
      rw [List.mem_singleton.mp h, List.mem_singleton.mp h']

/-- A token ends at one place only. -/
theorem Reaches.unique {inner' rest' : Text} (h : s.Reaches t inner rest)
    (h' : s.Reaches t inner' rest') : inner = inner' ∧ rest = rest' := by
  have hinner : inner = inner' := by
    rcases h.2 with ⟨front, closing, hcloses, hfirst, rfl⟩ | ⟨hopen, rfl⟩
    · rcases h'.2 with ⟨front', closing', hcloses', hfirst', rfl⟩ | ⟨hopen', -⟩
      · have hfront : front.length = front'.length :=
          Nat.le_antisymm (hfirst _ _ hcloses') (hfirst' _ _ hcloses)
        have hclosing := length_eq_of_mem_closings hcloses.mem hcloses'.mem
        have heq : front ++ closing = front' ++ closing' := by
          refine (List.prefix_of_prefix_length_le hcloses.here hcloses'.here ?_).eq_of_length ?_ <;>
            simp [hfront, hclosing]
        obtain ⟨rfl, rfl⟩ := List.append_inj heq hfront
        rfl
      · exact absurd hcloses (hopen' _ _)
    · rcases h'.2 with ⟨front', closing', hcloses', -⟩ | ⟨-, rfl⟩
      · exact absurd hcloses' (hopen _ _)
      · simpa using h.1.symm.trans h'.1
  refine ⟨hinner, ?_⟩
  have heq := h.1.symm.trans h'.1
  rw [hinner] at heq
  exact List.append_cancel_left heq

/-- Nothing closes a token in the empty text. -/
theorem not_closesAt_nil : ¬s.ClosesAt [] front closing := by
  intro h
  have hnil := List.prefix_nil.mp h.here
  exact ne_nil_of_mem_closings h.mem (List.append_eq_nil_iff.mp hnil).2

/-- A part of a text that a token reads at once: a character, or two that belong together. -/
inductive Atom (s : Span) : Text → Prop
  | escape (c : Char) : s.hasEscapes = true → Atom s ['\\', c]
  | plain (c : Char) : (s.hasEscapes = true → c ≠ '\\') → Atom s [c]

/-- Where no closing word stands at the beginning of a text, a token is closed behind the first atom
at the earliest. -/
theorem closesAt_append_iff {u : Text} (hu : s.Atom u)
    (hclosing : ∀ closing ∈ s.closings, ¬closing <+: u ++ t) :
    s.ClosesAt (u ++ t) front closing ↔
      ∃ behind, front = u ++ behind ∧ s.ClosesAt t behind closing := by
  constructor
  · intro h
    cases front with
    | nil =>
        exact absurd h.here (hclosing closing h.mem)
    | cons d front =>
        cases hu with
        | escape c hescapes =>
            obtain ⟨rfl, hhere⟩ := List.cons_prefix_cons.mp h.here
            cases front with
            | nil =>
                exact absurd (h.whole hescapes) not_whole_backslash
            | cons e front =>
                obtain ⟨rfl, hbehind⟩ := List.cons_prefix_cons.mp hhere
                exact ⟨front, rfl, h.mem, hbehind, fun _ => (h.whole hescapes).of_escape⟩
        | plain c hplain =>
            obtain ⟨rfl, hhere⟩ := List.cons_prefix_cons.mp h.here
            exact ⟨front, rfl, h.mem, hhere, fun hescapes =>
              (h.whole hescapes).of_plain (hplain hescapes)⟩
  · rintro ⟨behind, rfl, h⟩
    refine ⟨h.mem, ?_, fun hescapes => ?_⟩
    · rw [List.append_assoc, List.prefix_append_right_inj]
      exact h.here
    · cases hu with
      | escape c _ =>
          exact .escape c (h.whole hescapes)
      | plain c hplain =>
          exact .plain (hplain hescapes) (h.whole hescapes)

/-- A token that is not closed at once reads the first atom and goes on behind it. -/
theorem Reaches.append {u : Text} (hu : s.Atom u)
    (hclosing : ∀ closing ∈ s.closings, ¬closing <+: u ++ t) (h : s.Reaches t inner rest) :
    s.Reaches (u ++ t) (u ++ inner) rest := by
  obtain ⟨rfl, ⟨front, closing, hcloses, hfirst, rfl⟩ | ⟨hopen, rfl⟩⟩ := h
  · refine ⟨by rw [List.append_assoc], Or.inl ⟨u ++ front, closing, ?_, ?_, ?_⟩⟩
    · exact (closesAt_append_iff hu hclosing).mpr ⟨front, rfl, hcloses⟩
    · intro front' closing' hcloses'
      obtain ⟨behind, rfl, hbehind⟩ := (closesAt_append_iff hu hclosing).mp hcloses'
      simpa using hfirst _ _ hbehind
    · cases s.takesClosing <;> simp
  · refine ⟨by rw [List.append_assoc], Or.inr ⟨fun front closing hcloses => ?_, rfl⟩⟩
    obtain ⟨behind, -, hbehind⟩ := (closesAt_append_iff hu hclosing).mp hcloses
    exact hopen _ _ hbehind

/-- A text begins with an atom, unless it is empty or ends in a backslash that takes nothing. -/
theorem atom_cases (s : Span) (t : Text) :
    t = [] ∨ (s.hasEscapes = true ∧ t = ['\\']) ∨ ∃ u behind, s.Atom u ∧ t = u ++ behind := by
  cases t with
  | nil =>
      exact Or.inl rfl
  | cons c t =>
      right
      by_cases hescape : s.hasEscapes = true ∧ c = '\\'
      · obtain ⟨hescapes, rfl⟩ := hescape
        cases t with
        | nil =>
            exact Or.inl ⟨hescapes, rfl⟩
        | cons d t =>
            exact Or.inr ⟨['\\', d], t, .escape d hescapes, rfl⟩
      · exact Or.inr ⟨[c], t, .plain c fun hescapes hc => hescape ⟨hescapes, hc⟩, rfl⟩

/-- The mode in which a token of this kind is read. -/
def mode : Span → Mode
  | .lineComment => .lineComment
  | .blockComment => .blockComment
  | .longLiteral => .longLiteral
  | .literal => .literal

/-- What is left of a part of a token behind its opening word. -/
def leaves : Span → Text → Text
  | .lineComment, _ => []
  | .blockComment, part => List.replicate (part.count '\n') '\n'
  | .longLiteral, part | .literal, part => part

theorem leaves_nil (s : Span) : s.leaves [] = [] := by
  cases s <;> rfl

theorem leaves_append (s : Span) (part more : Text) :
    s.leaves (part ++ more) = s.leaves part ++ s.leaves more := by
  cases s with
  | blockComment =>
      rw [leaves, List.count_append, List.replicate_add]
      rfl
  | _ =>
      rfl

theorem stripFrom_closing (h : closing ∈ s.closings) (t : Text) :
    stripFrom s.mode (closing ++ t) =
      s.leaves (if s.takesClosing then closing else []) ++
        stripFrom .code (if s.takesClosing then t else closing ++ t) := by
  cases s with
  | lineComment =>
      obtain rfl := List.mem_singleton.mp h
      simp [mode, stripFrom, takesClosing, leaves]
  | blockComment =>
      obtain rfl := List.mem_singleton.mp h
      simp [mode, stripFrom, takesClosing, leaves]
  | longLiteral =>
      obtain rfl := List.mem_singleton.mp h
      simp [mode, stripFrom, takesClosing, leaves]
  | literal =>
      rcases List.mem_pair.mp h with rfl | rfl <;> simp [mode, stripFrom, takesClosing, leaves]

theorem stripFrom_atom {u : Text} (hu : s.Atom u)
    (hclosing : ∀ closing ∈ s.closings, ¬closing <+: u ++ t) :
    stripFrom s.mode (u ++ t) = s.leaves u ++ stripFrom s.mode t := by
  cases hu with
  | escape c hescapes =>
      cases s <;> simp [hasEscapes] at hescapes <;> simp [mode, stripFrom, leaves]
  | plain c hplain =>
      cases s with
      | lineComment =>
          have hc : c ≠ '\n' := by
            rintro rfl
            exact hclosing ['\n'] (by simp [closings]) (by simp)
          change stripFrom .lineComment (c :: t) = stripFrom .lineComment t
          rw [stripFrom]
          exact hc
      | blockComment =>
          by_cases hc : c = '\n'
          · subst hc
            rfl
          · have hnone : blockComment.leaves [c] = [] := by simp [leaves, hc]
            change stripFrom .blockComment (c :: t) = _ ++ stripFrom .blockComment t
            rw [hnone, List.nil_append, stripFrom]
            · rintro cs rfl rfl
              exact hclosing ['*', '/'] (by simp [closings]) (by simp)
            · exact hc
      | longLiteral =>
          change stripFrom .longLiteral (c :: t) = c :: stripFrom .longLiteral t
          rw [stripFrom]
          · rintro d cs rfl -
            exact hplain rfl rfl
          · rintro cs rfl rfl
            exact hclosing ['"', '"', '"'] (by simp [closings]) (by simp)
      | literal =>
          change stripFrom .literal (c :: t) = c :: stripFrom .literal t
          rw [stripFrom]
          · rintro d cs rfl -
            exact hplain rfl rfl
          · rintro rfl
            exact hclosing ['"'] (by simp [closings]) (by simp)
          · rintro rfl
            exact hclosing ['\n'] (by simp [closings]) (by simp)

/-- Reading step by step leaves of a token what is left of all that it reaches over. -/
theorem exists_reaches (s : Span) (t : Text) :
    ∃ inner rest, s.Reaches t inner rest ∧
      stripFrom s.mode t = s.leaves inner ++ stripFrom .code rest := by
  induction hlength : t.length using Nat.strongRecOn generalizing t with
  | ind n ih =>
      by_cases hclosed : ∃ closing ∈ s.closings, closing <+: t
      · obtain ⟨closing, hmem, behind, rfl⟩ := hclosed
        refine ⟨_, _, ⟨?_, Or.inl ⟨[], closing, ?_, ?_, rfl⟩⟩, stripFrom_closing hmem behind⟩
        · cases s.takesClosing <;> simp
        · exact ⟨hmem, List.prefix_append closing behind, fun _ => .nil⟩
        · simp
      · have hclosing : ∀ closing ∈ s.closings, ¬closing <+: t := fun closing hmem hhere =>
          hclosed ⟨closing, hmem, hhere⟩
        rcases atom_cases s t with rfl | ⟨hescapes, rfl⟩ | ⟨u, behind, hu, rfl⟩
        · refine ⟨[], [], ⟨rfl, Or.inr ⟨fun _ _ => not_closesAt_nil, rfl⟩⟩, ?_⟩
          simp [leaves_nil]
        · refine ⟨['\\'], [], ⟨rfl, Or.inr ⟨fun front closing hcloses => ?_, rfl⟩⟩, ?_⟩
          · cases front with
            | nil =>
                exact hclosing closing hcloses.mem hcloses.here
            | cons d front =>
                obtain ⟨-, hnil⟩ := List.cons_prefix_cons.mp hcloses.here
                have hempty := List.append_eq_nil_iff.mp (List.prefix_nil.mp hnil)
                exact ne_nil_of_mem_closings hcloses.mem hempty.2
          · cases s <;> simp [hasEscapes] at hescapes <;> simp [mode, stripFrom, leaves]
        · have hshorter : behind.length < n := by
            have hpos : 0 < u.length := by cases hu <;> simp
            rw [List.length_append] at hlength
            omega
          obtain ⟨inner, rest, hreaches, hstrip⟩ := ih _ hshorter behind rfl
          refine ⟨u ++ inner, rest, hreaches.append hu hclosing, ?_⟩
          rw [stripFrom_atom hu hclosing, hstrip, leaves_append, List.append_assoc]

/-- A text begins with a token of one kind only. -/
theorem Opens.unique {s' : Span} (h : s.Opens t) (h' : s'.Opens t) : s = s' := by
  have hopening := List.prefix_or_prefix_of_prefix h.1 h'.1
  cases s <;> cases s' <;> simp [opening] at hopening
  case longLiteral.longLiteral | lineComment.lineComment | blockComment.blockComment |
      literal.literal =>
    rfl
  case longLiteral.literal =>
    exact absurd h.1 (h'.2 rfl)
  case literal.longLiteral =>
    exact absurd h'.1 (h.2 rfl)

/-- What is left of the opening word. -/
def mark : Span → Text
  | .lineComment => []
  | .blockComment => [' ']
  | .longLiteral => ['"', '"', '"']
  | .literal => ['"']

theorem left_span (s : Span) (inner : Text) :
    (Token.span s inner).left = s.mark ++ s.leaves inner := by
  cases s <;> rfl

theorem stripFrom_opening (h : s.Opens (s.opening ++ t)) :
    stripFrom .code (s.opening ++ t) = s.mark ++ stripFrom s.mode t := by
  cases s with
  | literal =>
      have hquotes : ∀ cs, t ≠ '"' :: '"' :: cs := by
        rintro cs rfl
        exact h.2 rfl (by simp [opening])
      simp only [opening, mark, mode, List.cons_append, List.nil_append]
      rw [stripFrom]
      exact fun cs heq => hquotes cs heq
  | _ =>
      simp [opening, mark, mode, stripFrom]

/-- Every quote begins a literal of one of the two kinds. -/
theorem ne_quote_of_not_opens {c : Char} (h : ∀ s : Span, ¬s.Opens (c :: t)) : c ≠ '"' := by
  rintro rfl
  by_cases hlong : longLiteral.opening <+: '"' :: t
  · exact h .longLiteral ⟨hlong, by simp⟩
  · exact h .literal ⟨by simp [opening], fun _ => hlong⟩

/-- In front of no comment and no literal stands a character of its own. -/
theorem stripFrom_single {c : Char} (h : ∀ s : Span, ¬s.Opens (c :: t)) :
    stripFrom .code (c :: t) = c :: stripFrom .code t := by
  have hline : ¬['/', '/'] <+: c :: t := fun hhere => h .lineComment ⟨hhere, by simp⟩
  have hblock : ¬['/', '*'] <+: c :: t := fun hhere => h .blockComment ⟨hhere, by simp⟩
  have hquote : c ≠ '"' := ne_quote_of_not_opens h
  rw [stripFrom]
  · rintro cs rfl rfl
    exact hline (by simp)
  · rintro cs rfl rfl
    exact hblock (by simp)
  · rintro cs rfl rfl
    exact hquote rfl
  · exact hquote

end Span

theorem exists_tokens (t : Text) :
    ∃ ts, Tokens t ts ∧ stripFrom .code t = ts.flatMap Token.left := by
  induction hlength : t.length using Nat.strongRecOn generalizing t with
  | ind n ih =>
      by_cases hopens : ∃ s : Span, s.Opens t
      · obtain ⟨s, hs⟩ := hopens
        obtain ⟨behind, rfl⟩ := hs.1
        obtain ⟨inner, rest, hreaches, hstrip⟩ := s.exists_reaches behind
        have hshorter : rest.length < n := by
          have hpos : 0 < s.opening.length := by cases s <;> simp [Span.opening]
          rw [hreaches.1, List.length_append, List.length_append] at hlength
          omega
        obtain ⟨ts, htokens, hleft⟩ := ih _ hshorter rest rfl
        refine ⟨.span s inner :: ts, .span hs ?_ ?_ htokens, ?_⟩
        · rw [← hreaches.1]
        · rw [← hreaches.1]
          exact hreaches
        · rw [Span.stripFrom_opening hs, hstrip, hleft, List.flatMap_cons, Span.left_span,
            List.append_assoc]
      · have hsingle : ∀ s : Span, ¬s.Opens t := fun s hs => hopens ⟨s, hs⟩
        cases t with
        | nil =>
            exact ⟨[], .nil, rfl⟩
        | cons c t =>
            obtain ⟨ts, htokens, hleft⟩ := ih _ (by simp [← hlength]) t rfl
            refine ⟨.single c :: ts, .single hsingle htokens, ?_⟩
            rw [Span.stripFrom_single hsingle, hleft]
            rfl

theorem not_opens_nil (s : Span) : ¬s.Opens [] := by
  intro h
  have hnil := List.prefix_nil.mp h.1
  cases s <;> simp [Span.opening] at hnil

/-- A text is cut into tokens in one way only. -/
theorem Tokens.unique {t : Text} {ts us : List Token} (h : Tokens t ts) (h' : Tokens t us) :
    ts = us := by
  induction h generalizing us with
  | nil =>
      cases h' with
      | nil =>
          rfl
      | span hopens _ _ _ =>
          exact absurd hopens (not_opens_nil _)
  | @span s t inner rest ts hopens heq hreaches _ ih =>
      cases h' with
      | nil =>
          exact absurd hopens (not_opens_nil _)
      | @span s' _ inner' rest' us hopens' heq' hreaches' htokens' =>
          obtain rfl := hopens.unique hopens'
          have hsame : inner ++ rest = inner' ++ rest' :=
            List.append_cancel_left (heq.symm.trans heq')
          rw [← hsame] at hreaches'
          obtain ⟨rfl, rfl⟩ := hreaches.unique hreaches'
          rw [ih htokens']
      | single hsingle _ =>
          exact absurd hopens (hsingle _)
  | @single c t ts hsingle _ ih =>
      cases h' with
      | span hopens _ _ _ =>
          exact absurd hopens (hsingle _)
      | single _ htokens' =>
          rw [ih htokens']

theorem Tokens.flatMap_text {t : Text} {ts : List Token} (h : Tokens t ts) :
    ts.flatMap Token.text = t := by
  induction h with
  | nil =>
      rfl
  | span _ heq _ _ ih =>
      rw [List.flatMap_cons, ih, heq, Token.text, List.append_assoc]
  | single _ _ ih =>
      rw [List.flatMap_cons, ih]
      rfl

/-- **Removing the comments of a text is replacing its tokens one by one**: nothing is left of a
line comment, a space and the newlines of a block comment, and all of the other tokens. -/
theorem stripComments_eq_left (source : Text) :
    ∃ tokens, (∀ ts, Tokens source ts ↔ ts = tokens) ∧ tokens.flatMap Token.text = source ∧
      stripComments source = tokens.flatMap Token.left := by
  obtain ⟨tokens, htokens, hleft⟩ := exists_tokens source
  refine ⟨tokens, fun ts => ⟨fun hts => hts.unique htokens, ?_⟩, htokens.flatMap_text, hleft⟩
  rintro rfl
  exact htokens

/-- The star that opens a block comment does not close it, and four quotes open no second literal
before the first one is closed. -/
example : stripComments "/*/x*/\"\"\"\" // y\"\"\"//".toList = " \"\"\"\" // y\"\"\"".toList := by
  decide

end Source
end IconAssets
