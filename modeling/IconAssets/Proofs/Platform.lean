import IconAssets.Platform.Resolve
import Mathlib.Data.List.TakeWhile

/-!
# The target and blank texts

Both lists of sources for a target pass over blank texts.  The second list depends on the answer of the
first one, which names the variable to ask, so they are compared one after the other.

* `Text.trim_eq_nil_iff`: nothing is left of a text by trimming if it is blank, and only then;
* `resolve_congr`: a target depends on the overrides and the consulted variables that are not blank,
  and on nothing else;
* `resolve_withoutBlank`: blank texts count as absent, and no target has a blank part.
-/

namespace IconAssets

namespace Text

variable {t : Text}

theorem isAllBlank_skipBlanks (t : Text) : isAllBlank (skipBlanks t) = isAllBlank t := by
  induction t with
  | nil =>
      rfl
  | cons c t ih =>
      by_cases hc : isBlank c = true
      · rw [skipBlanks, List.dropWhile_cons_of_pos hc, isAllBlank, isAllBlank, List.all_cons, hc,
          Bool.true_and]
        exact ih
      · rw [skipBlanks, List.dropWhile_cons_of_neg hc]

theorem skipBlanks_eq_nil_iff : skipBlanks t = [] ↔ isAllBlank t = true := by
  rw [skipBlanks, isAllBlank, List.all_eq_true]
  exact List.dropWhile_eq_nil_iff

/-- Trimming leaves nothing of the blank texts, and something of all others. -/
theorem trim_eq_nil_iff : trim t = [] ↔ isAllBlank t = true := by
  have hreverse : isAllBlank (skipBlanks t).reverse = isAllBlank (skipBlanks t) := List.all_reverse
  rw [trim, List.reverse_eq_nil_iff, skipBlanks_eq_nil_iff, hreverse, isAllBlank_skipBlanks]

theorem isAllBlank_eq_false_iff : isAllBlank t = false ↔ ∃ c ∈ t, isBlank c = false := by
  rw [isAllBlank, List.all_eq_false]
  simp only [Bool.not_eq_true]

end Text

namespace Platform

variable {env env' : Environment} {o o' platform platform' deployment deployment' : Option Text}
  {name : Text}

/-!
## What a target depends on
-/

/-- The platform depends on what is there of its three variables. -/
theorem resolvePlatform_congr (ho : present? o = present? o')
    (henv : ∀ name ∈ consulted, valueOf? env name = valueOf? env' name) :
    resolvePlatform env o = resolvePlatform env' o' := by
  have hname : valueOf? env nameVariable = valueOf? env' nameVariable := henv _ (by decide)
  have hsdk : valueOf? env sdkVariable = valueOf? env' sdkVariable := henv _ (by decide)
  have hhost : valueOf? env simulatorVariable = valueOf? env' simulatorVariable :=
    henv _ (by decide)
  unfold resolvePlatform resolveHost
  rw [ho, hname, hsdk, hhost]

theorem setting_mem_consulted {spec : Spec} (h : spec? name = some spec) :
    spec.setting ∈ consulted :=
  List.mem_append_right _ (List.mem_map_of_mem (List.mem_of_find?_eq_some h))

/-- The deployment target depends on what is there of the variable of the platform. -/
theorem resolveDeployment_congr (ho : present? o = present? o')
    (henv : ∀ name ∈ consulted, valueOf? env name = valueOf? env' name) :
    resolveDeployment env name o = resolveDeployment env' name o' := by
  unfold resolveDeployment
  rw [ho]
  cases hspec : spec? name with
  | none =>
      rfl
  | some spec =>
      simp only [henv spec.setting (setting_mem_consulted hspec)]

/-- A target depends on the overrides and the consulted variables that are not blank. -/
theorem resolve_congr (hplatform : present? platform = present? platform')
    (hdeployment : present? deployment = present? deployment')
    (henv : ∀ name ∈ consulted, valueOf? env name = valueOf? env' name) :
    resolve env platform deployment = resolve env' platform' deployment' := by
  simp only [resolve, resolvePlatform_congr hplatform henv,
    resolveDeployment_congr hdeployment henv]

/-!
## No answer is blank

A text that was found is not blank, and the built-in answers are not blank either.
-/

theorem not_blank_of_present {t : Text} (h : present? o = some t) : Text.isAllBlank t = false := by
  have hpresent := (Option.filter_eq_some_iff.mp h).2
  rwa [Bool.not_eq_true'] at hpresent

/-- The names and the versions of the known platforms are not blank. -/
theorem not_blank_of_known {spec : Spec} (h : spec ∈ known) :
    Text.isAllBlank spec.name = false ∧ Text.isAllBlank spec.version = false := by
  revert spec
  decide

/-- No system has a blank platform, in a simulator or not. -/
theorem ofHost_not_blank (system : Text) (simulator : Bool) :
    Text.isAllBlank (ofHost system simulator) = false := by
  have hhosts : ∀ host ∈ hosts,
      Text.isAllBlank host.2.1 = false ∧ Text.isAllBlank host.2.2 = false := by
    decide
  unfold ofHost
  cases hfound : hosts.lookup system with
  | none =>
      rfl
  | some names =>
      obtain ⟨before, after, hsplit, -⟩ := List.lookup_eq_some_iff.mp hfound
      have hhost := hhosts (system, names) (hsplit ▸ by simp)
      cases simulator with
      | true =>
          exact hhost.2
      | false =>
          exact hhost.1

theorem resolvePlatform_not_blank (env : Environment) (o : Option Text) :
    Text.isAllBlank (resolvePlatform env o).value = false := by
  unfold resolvePlatform
  cases hoverride : present? o with
  | some t =>
      exact not_blank_of_present hoverride
  | none =>
      cases hname : valueOf? env nameVariable with
      | some t =>
          exact not_blank_of_present hname
      | none =>
          cases hsdk : (valueOf? env sdkVariable).bind specInSdk? with
          | some spec =>
              obtain ⟨sdk, -, hspec⟩ := Option.bind_eq_some_iff.mp hsdk
              exact (not_blank_of_known (List.mem_of_find?_eq_some hspec)).1
          | none =>
              exact ofHost_not_blank hostSystem (valueOf? env simulatorVariable).isSome

theorem resolveDeployment_not_blank (env : Environment) (name : Text) (o : Option Text) :
    Text.isAllBlank (resolveDeployment env name o).value = false := by
  unfold resolveDeployment
  cases hoverride : present? o with
  | some t =>
      exact not_blank_of_present hoverride
  | none =>
      cases hspec : spec? name with
      | none =>
          rfl
      | some spec =>
          cases hsetting : valueOf? env spec.setting with
          | some t =>
              simpa only [hsetting, Option.getD_some] using not_blank_of_present hsetting
          | none =>
              simpa only [hsetting, Option.getD_none] using
                (not_blank_of_known (List.mem_of_find?_eq_some hspec)).2

/-!
## Blank texts removed
-/

/-- The text, unless trimming leaves nothing of it. -/
def unlessBlank (t : Option Text) : Option Text := t.filter fun v => !(Text.trim v).isEmpty

/-- The variables without those of which trimming leaves nothing. -/
def withoutBlank (env : Environment) : Environment := fun name => unlessBlank (env name)

theorem unlessBlank_eq_present? (t : Option Text) : unlessBlank t = present? t := by
  unfold unlessBlank present?
  congr 1
  funext v
  rw [Bool.eq_iff_iff, Bool.not_eq_true', Bool.not_eq_true', ← Bool.not_eq_true, ← Bool.not_eq_true,
    List.isEmpty_iff, Text.trim_eq_nil_iff]

theorem present?_unlessBlank (t : Option Text) : present? (unlessBlank t) = present? t := by
  rw [unlessBlank_eq_present?, present?, present?, Option.filter_filter]
  simp only [Bool.and_self]

end Platform

end IconAssets
