import IconAssets.Proofs.Source.Tokens

/-!
# Tokens of a text without comments

What stands on the two sides of a comment never becomes one token when the comment is removed: the
tokens that are left are the literals and the single characters of the text, and the spaces and
newlines that stand for its block comments.  So there is nothing to be removed a second time.

Two places could go wrong.  In front of a comment may stand a slash or quotes; but a slash there
would have begun the comment itself, and a comment leaves no quote in front of what follows it.

* `Token.remains`: the tokens that are left of a token;
* `Tokens.head?_left`: how a text may begin that has lost its comments;
* `Span.Reaches.replace`, `Span.Opens.replace`: a literal does not depend on what follows it;
* `Tokens.remains`: the tokens that are left of a text;
* `stripComments_stripComments`: removing the comments again changes nothing.
-/

namespace IconAssets
namespace Source

/-- The tokens that are left of a token: spaces and newlines of a comment, and all other tokens as
they are. -/
def Token.remains : Token → List Token
  | .span .lineComment _ => []
  | .span .blockComment inner => (' ' :: List.replicate (inner.count '\n') '\n').map .single
  | token => [token]

variable {t u rest : Text} {ts : List Token} {c : Char}

theorem flatMap_left_single (u : Text) : (u.map Token.single).flatMap Token.left = u := by
  induction u with
  | nil =>
      rfl
  | cons c u ih =>
      rw [List.map_cons, List.flatMap_cons, ih]
      rfl

/-- What is left of the tokens that remain is what was left of the token. -/
theorem Token.flatMap_left_remains (token : Token) :
    token.remains.flatMap Token.left = token.left := by
  cases token with
  | single c =>
      rfl
  | span s inner =>
      cases s with
      | lineComment =>
          rfl
      | blockComment =>
          exact flatMap_left_single _
      | longLiteral | literal =>
          exact List.append_nil _

/-- The text that is left of the tokens of a text is the text without its comments. -/
theorem Tokens.flatMap_left (h : Tokens t ts) : ts.flatMap Token.left = stripComments t := by
  obtain ⟨us, hus, hleft⟩ := exists_tokens t
  rw [h.unique hus, ← hleft]
  rfl

namespace Span

variable {s : Span} {inner rest' : Text}

/-- A comment on one line ends in front of a newline, or with the text. -/
theorem Reaches.head?_rest (h : lineComment.Reaches t inner rest) (hc : rest.head? = some c) :
    c = '\n' := by
  obtain ⟨rfl, ⟨front, closing, hcloses, -, hinner⟩ | ⟨-, rfl⟩⟩ := h
  · obtain rfl := List.mem_singleton.mp hcloses.mem
    obtain rfl : inner = front := hinner
    obtain ⟨behind, rfl⟩ := (List.prefix_append_right_inj inner).mp hcloses.here
    exact (Option.some_inj.mp hc).symm
  · cases hc

/-- A token that takes its closing word does not depend on what follows it, unless this is the end
of the text. -/
theorem Reaches.replace (hs : s.takesClosing = true) (hend : rest = [] → rest' = [])
    (h : s.Reaches (inner ++ rest) inner rest) : s.Reaches (inner ++ rest') inner rest' := by
  obtain ⟨-, ⟨front, closing, hcloses, hfirst, hinner⟩ | ⟨hopen, rfl⟩⟩ := h
  · rw [if_pos hs] at hinner
    have hhere : front ++ closing <+: inner ++ rest' := by
      rw [hinner]
      exact List.prefix_append _ _
    refine ⟨rfl, .inl ⟨front, closing, ⟨hcloses.mem, hhere, hcloses.whole⟩, ?_, ?_⟩⟩
    · intro front' closing' hcloses'
      by_contra hlt
      -- A word that closed the token earlier would end inside of it, where nothing has changed.
      have hlength : (front' ++ closing').length ≤ inner.length := by
        have hclosing := length_eq_of_mem_closings hcloses.mem hcloses'.mem
        rw [hinner, List.length_append, List.length_append]
        omega
      have hinside : front' ++ closing' <+: inner :=
        List.prefix_of_prefix_length_le hcloses'.here (List.prefix_append inner rest') hlength
      exact hlt (hfirst front' closing'
        ⟨hcloses'.mem, hinside.trans (List.prefix_append inner rest), hcloses'.whole⟩)
    · rw [if_pos hs, hinner]
  · obtain rfl := hend rfl
    exact ⟨rfl, .inr ⟨hopen, rfl⟩⟩

/-- A token that takes its closing word holds more than its opening word, unless the text ends
there. -/
theorem Reaches.rest_eq_nil (hs : s.takesClosing = true) (h : s.Reaches t [] rest) :
    rest = [] := by
  obtain ⟨-, ⟨front, closing, hcloses, -, hinner⟩ | ⟨-, hrest⟩⟩ := h
  · rw [if_pos hs] at hinner
    exact absurd (List.append_eq_nil_iff.mp hinner.symm).2 (ne_nil_of_mem_closings hcloses.mem)
  · exact hrest

/-- A literal that is closed at once still does not begin with three quotes if no quote comes to
stand behind it. -/
theorem Opens.replace (hs : s.takesClosing = true) (h : s.Opens (s.opening ++ (inner ++ rest)))
    (hreaches : s.Reaches (inner ++ rest) inner rest) (hend : rest = [] → rest' = [])
    (hquote : rest'.head? = some '"' → rest.head? = some '"') :
    s.Opens (s.opening ++ (inner ++ rest')) := by
  refine ⟨List.prefix_append _ _, ?_⟩
  rintro rfl hlong
  refine h.2 rfl ?_
  simp only [opening, List.cons_append, List.nil_append, List.cons_prefix_cons, true_and]
    at hlong ⊢
  cases inner with
  | nil =>
      rw [hend (hreaches.rest_eq_nil hs)] at hlong
      simp at hlong
  | cons d inner =>
      cases inner with
      | nil =>
          obtain ⟨rfl, behind, rfl⟩ := List.cons_prefix_cons.mp hlong
          obtain ⟨behind, rfl⟩ := List.head?_eq_some_iff.mp (hquote rfl)
          simp
      | cons e inner =>
          simpa using hlong

/-- Where no token begins, none begins when other text follows, unless this begins with one of the
characters that open tokens. -/
theorem not_opens_replace (h : ∀ s : Span, ¬s.Opens (c :: t))
    (hhead : ∀ d ∈ ['/', '*'], u.head? = some d → t.head? = some d) (s : Span) :
    ¬s.Opens (c :: u) := by
  intro hopens
  cases s with
  | lineComment =>
      obtain ⟨rfl, behind, rfl⟩ := List.cons_prefix_cons.mp hopens.1
      obtain ⟨rest, rfl⟩ := List.head?_eq_some_iff.mp (hhead '/' (by simp) rfl)
      exact h .lineComment ⟨by simp [opening], by simp⟩
  | blockComment =>
      obtain ⟨rfl, behind, rfl⟩ := List.cons_prefix_cons.mp hopens.1
      obtain ⟨rest, rfl⟩ := List.head?_eq_some_iff.mp (hhead '*' (by simp) rfl)
      exact h .blockComment ⟨by simp [opening], by simp⟩
  | longLiteral | literal =>
      exact ne_quote_of_not_opens h (List.cons_prefix_cons.mp hopens.1).1.symm

end Span

/-- A text that has lost its comments begins as before, or with what stands for a comment. -/
theorem Tokens.head?_left (h : Tokens t ts) (hc : (ts.flatMap Token.left).head? = some c) :
    c = ' ' ∨ c = '\n' ∨ t.head? = some c := by
  induction h with
  | nil =>
      cases hc
  | @span s t inner rest ts _ heq hreaches _ ih =>
      subst heq
      cases s with
      | lineComment =>
          rcases ih hc with rfl | rfl | hrest
          · exact .inl rfl
          · exact .inr (.inl rfl)
          · exact .inr (.inl (hreaches.head?_rest hrest))
      | blockComment =>
          exact .inl (Option.some_inj.mp hc).symm
      | longLiteral | literal =>
          exact .inr (.inr hc)
  | single _ _ _ =>
      exact .inr (.inr hc)

/-- Spaces and newlines are tokens of their own. -/
theorem tokens_blank_append (hu : ∀ c ∈ u, c = ' ' ∨ c = '\n') (h : Tokens t ts) :
    Tokens (u ++ t) (u.map .single ++ ts) := by
  induction u with
  | nil =>
      exact h
  | cons c u ih =>
      have hnone : ∀ s : Span, ¬s.Opens (c :: (u ++ t)) := by
        intro s hopens
        have hfirst := hopens.1
        rcases hu c List.mem_cons_self with rfl | rfl <;> cases s <;>
          simp [Span.opening] at hfirst
      exact .single hnone (ih fun d hd => hu d (List.mem_cons_of_mem _ hd))

/-- The tokens of a text without its comments are those that are left of its tokens. -/
theorem Tokens.remains (h : Tokens t ts) :
    Tokens (ts.flatMap Token.left) (ts.flatMap Token.remains) := by
  induction h with
  | nil =>
      exact .nil
  | @span s t inner rest ts hopens heq hreaches htokens ih =>
      subst heq
      have hend : rest = [] → ts.flatMap Token.left = [] := by
        rintro rfl
        rw [htokens.flatMap_left]
        rfl
      have hquote : (ts.flatMap Token.left).head? = some '"' → rest.head? = some '"' := by
        intro hhead
        rcases htokens.head?_left hhead with hspace | hnewline | hrest
        · cases hspace
        · cases hnewline
        · exact hrest
      cases s with
      | lineComment =>
          exact ih
      | blockComment =>
          refine tokens_blank_append (fun c hc => ?_) ih
          rcases List.mem_cons.mp hc with rfl | hc
          · exact .inl rfl
          · exact .inr (List.mem_replicate.mp hc).2
      | longLiteral | literal =>
          refine .span (hopens.replace rfl hreaches hend hquote) ?_ (hreaches.replace rfl hend) ih
          exact List.append_assoc _ _ _
  | @single c t ts hnone htokens ih =>
      refine .single (Span.not_opens_replace hnone fun d hd hhead => ?_) ih
      rcases htokens.head?_left hhead with rfl | rfl | ht
      · simp at hd
      · simp at hd
      · exact ht

/-- **Removing the comments of a text again changes nothing.**  No new token comes into being where
a comment has been: the tokens that are left are the other tokens of the text, and the spaces and
newlines that stand for its block comments. -/
theorem stripComments_stripComments (source : Text) :
    stripComments (stripComments source) = stripComments source ∧
      ∃ tokens, Tokens source tokens ∧
        Tokens (stripComments source) (tokens.flatMap Token.remains) := by
  obtain ⟨tokens, htokens, -⟩ := exists_tokens source
  have hremains := htokens.remains
  rw [htokens.flatMap_left] at hremains
  refine ⟨?_, tokens, htokens, hremains⟩
  calc stripComments (stripComments source)
      = (tokens.flatMap Token.remains).flatMap Token.left := hremains.flatMap_left.symm
    _ = tokens.flatMap Token.left := by
        rw [List.flatMap_assoc]
        exact congrArg (tokens.flatMap ·) (funext Token.flatMap_left_remains)
    _ = stripComments source := htokens.flatMap_left

/-- Slashes, stars and quotes on both sides of comments. -/
example : stripComments "*/**//\"\"/**/\"\"\"/* \"//".toList = "* /\"\" \"\"\"/* \"//".toList := by
  decide

end Source
end IconAssets
