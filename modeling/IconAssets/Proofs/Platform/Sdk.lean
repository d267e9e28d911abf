import IconAssets.Proofs.Platform
import IconAssets.Proofs.Text.Replacing
import Mathlib

/-!
# Platforms in SDK names

An SDK name holds the name of a platform somewhere, in any letter case, with a version or the like
around it, and the first known platform whose name occurs in it is taken.  None of the known names
occurs in another one.  So if no letters stand around the name, no other known name occurs in the SDK
name, and the order in which the platforms are looked for does not matter.

* `Text.infix_append_append_iff`: what occurs in a text does not reach into surroundings with which it
  shares no character;
* `occursIn_sdk_iff`: the only known name that occurs in an SDK name;
* `platformAmong_known`: the platform, with the list of the known platforms as a parameter;
* `resolvePlatform_sdk`: the platform that an SDK name gives.
-/

namespace IconAssets

namespace Text

variable {t u front back word : Text}

/-- A text that shares no character with what stands around another one occurs in the whole only where
it occurs in that one. -/
theorem infix_append_append_iff (hu : u ≠ []) (hfront : u.Disjoint front)
    (hback : u.Disjoint back) : u <:+: front ++ t ++ back ↔ u <:+: t := by
  obtain ⟨c, cs, rfl⟩ := List.exists_cons_of_ne_nil hu
  have hfirst : c ∉ front := hfront List.mem_cons_self
  rw [List.append_assoc, infix_append_iff_of_not_mem hfirst]
  -- At the other end the last character decides, which is the first one of the reversed text.
  rw [← List.reverse_infix, List.reverse_append]
  obtain ⟨d, ds, hreverse⟩ := List.exists_cons_of_ne_nil (List.reverse_ne_nil_iff.mpr hu)
  have hlast : d ∉ back.reverse := by
    rw [List.mem_reverse]
    exact hback (List.mem_reverse.mp (hreverse ▸ List.mem_cons_self))
  rw [hreverse, infix_append_iff_of_not_mem hlast, ← hreverse, List.reverse_infix]

/-- A word in any mixture of ASCII upper and lower case: in each place stands the character of the word
or its capital. -/
def IsCasing (word t : Text) : Prop := List.Forall₂ (fun c d => d = c ∨ d = c.toUpper) word t

instance (word t : Text) : Decidable (IsCasing word t) :=
  inferInstanceAs (Decidable (List.Forall₂ _ word t))

theorem lowerAscii_append (t u : Text) : lowerAscii (t ++ u) = lowerAscii t ++ lowerAscii u :=
  List.map_append

theorem lowerAscii_of_not_isUpper (h : ∀ c ∈ t, c.isUpper = false) : lowerAscii t = t := by
  refine (List.map_congr_left fun c hc => ?_).trans (List.map_id t)
  exact Char.toLower_eq_of_not_isUpper (Bool.eq_false_iff.mp (h c hc))

/-- In lower case there is no difference between a word and its casings. -/
theorem IsCasing.lowerAscii_eq (h : IsCasing word t) : lowerAscii t = lowerAscii word := by
  induction h with
  | nil =>
      rfl
  | @cons c d cs ds hhead _ ih =>
      have hlower : d.toLower = c.toLower := by
        rcases hhead with rfl | rfl
        · rfl
        · exact Char.toLower_toUpper_eq_toLower c
      exact congrArg₂ List.cons hlower ih

theorem isAlpha_iff {c : Char} :
    c.isAlpha = true ↔ 65 ≤ c.toNat ∧ c.toNat ≤ 90 ∨ 97 ≤ c.toNat ∧ c.toNat ≤ 122 := by
  simp only [Char.isAlpha, Char.isUpper, Char.isLower, Bool.or_eq_true, Bool.and_eq_true,
    decide_eq_true_eq, ge_iff_le, UInt32.le_iff_toNat_le]
  rfl

/-- Letters are not blank. -/
theorem isBlank_of_isAlpha {c : Char} (h : c.isAlpha = true) : isBlank c = false := by
  rw [isAlpha_iff] at h
  simp only [isBlank, inRanges, blankRanges, List.any_cons, List.any_nil, Bool.or_false,
    Bool.or_eq_false_iff, Bool.and_eq_false_iff, decide_eq_false_iff_not]
  omega

end Text

/-- If an item is the only one of a list with a property, it is the first one. -/
theorem find?_eq_some_of_iff {α : Type} {p : α → Bool} {x : α} {xs : List α} (hx : x ∈ xs)
    (honly : ∀ y ∈ xs, p y = true ↔ y = x) : xs.find? p = some x := by
  cases hfound : xs.find? p with
  | none =>
      exact absurd ((honly x hx).mpr rfl) (List.find?_eq_none.mp hfound x hx)
  | some y =>
      rw [(honly y (List.mem_of_find?_eq_some hfound)).mp (List.find?_some hfound)]

namespace Platform

variable {s spec : Spec} {specs : List Spec} {env : Environment} {override : Option Text}
  {front word back : Text}

/-!
## The known names
-/

/-- The names of the known platforms are words of lower-case letters. -/
theorem name_isLower (h : spec ∈ known) : spec.name ≠ [] ∧ ∀ c ∈ spec.name, c.isLower = true := by
  have hall : ∀ s ∈ known, s.name ≠ [] ∧ s.name.all Char.isLower = true := by decide
  obtain ⟨hne, hlower⟩ := hall spec h
  exact ⟨hne, List.all_eq_true.mp hlower⟩

theorem isAlpha_of_mem_name {c : Char} (h : spec ∈ known) (hc : c ∈ spec.name) :
    c.isAlpha = true := by
  rw [Char.isAlpha, (name_isLower h).2 c hc, Bool.or_true]

/-- A known name shares no character with a text without letters. -/
theorem name_disjoint {t : Text} (h : spec ∈ known) (ht : ∀ c ∈ t, c.isAlpha = false) :
    spec.name.Disjoint t := by
  intro c hname hc
  exact Bool.false_ne_true ((ht c hc).symm.trans (isAlpha_of_mem_name h hname))

/-- No known name occurs in the name of another platform. -/
theorem eq_of_name_infix (hs : s ∈ known) (hspec : spec ∈ known) (h : s.name <:+: spec.name) :
    s = spec := by
  have hall : ∀ s ∈ known, ∀ spec ∈ known, Text.occursIn s.name spec.name = true → s = spec := by
    decide
  exact hall s hs spec hspec ((Text.occursIn_iff _ _).mpr h)

/-!
## The platform as a function of the known platforms
-/

/-- The first of some platforms whose name occurs in an SDK name, letter case aside. -/
def firstInSdk? (specs : List Spec) (sdk : Text) : Option Spec :=
  specs.find? fun s => Text.occursIn s.name (Text.lowerAscii sdk)

/-- The first answer to the question for the platform, if `specs` are the known platforms in the order
in which they are looked for. -/
def platformAmong (specs : List Spec) (env : Environment) (override : Option Text) : Text :=
  let found := (valueOf? env sdkVariable).bind (firstInSdk? specs)
  ((present? override).or ((valueOf? env nameVariable).or (found.map Spec.name))).getD
    (resolveHost env).value

/-- The platform is looked for among the known platforms. -/
theorem platformAmong_known (env : Environment) (override : Option Text) :
    platformAmong known env override = (resolvePlatform env override).value := by
  have hsearch : firstInSdk? known = specInSdk? := rfl
  unfold platformAmong resolvePlatform
  rw [hsearch]
  cases present? override with
  | some name =>
      rfl
  | none =>
      cases valueOf? env nameVariable with
      | some name =>
          rfl
      | none =>
          cases (valueOf? env sdkVariable).bind specInSdk? with
          | some spec =>
              rfl
          | none =>
              rfl

/-!
## SDK names

The name of a known platform in any letter case, with no letters around it.
-/

section

variable (hspec : spec ∈ known) (hword : Text.IsCasing spec.name word)
  (hfront : ∀ c ∈ front, c.isAlpha = false) (hback : ∀ c ∈ back, c.isAlpha = false)
include hspec hword hfront hback

/-- In lower case an SDK name holds the name of its platform, and what has no letters stays. -/
theorem lowerAscii_sdk :
    Text.lowerAscii (front ++ word ++ back) = front ++ spec.name ++ back := by
  have hname : Text.lowerAscii spec.name = spec.name :=
    Text.lowerAscii_of_not_isUpper fun c hc =>
      Bool.eq_false_iff.mpr (Char.not_isUpper_of_isLower ((name_isLower hspec).2 c hc))
  have hstays {t : Text} (ht : ∀ c ∈ t, c.isAlpha = false) : Text.lowerAscii t = t :=
    Text.lowerAscii_of_not_isUpper fun c hc => (Bool.or_eq_false_iff.mp (ht c hc)).1
  rw [Text.lowerAscii_append, Text.lowerAscii_append, hword.lowerAscii_eq, hname, hstays hfront,
    hstays hback]

/-- Of the known names, one and only one occurs in an SDK name. -/
theorem occursIn_sdk_iff (hs : s ∈ known) :
    Text.occursIn s.name (Text.lowerAscii (front ++ word ++ back)) = true ↔ s = spec := by
  rw [lowerAscii_sdk hspec hword hfront hback, Text.occursIn_iff,
    Text.infix_append_append_iff (name_isLower hs).1 (name_disjoint hs hfront)
      (name_disjoint hs hback)]
  constructor
  · exact eq_of_name_infix hs hspec
  · rintro rfl
    exact List.infix_refl _

/-- The known platforms may be looked for in any order. -/
theorem firstInSdk?_sdk (hspecs : specs.Perm known) :
    firstInSdk? specs (front ++ word ++ back) = some spec :=
  find?_eq_some_of_iff (hspecs.mem_iff.mpr hspec) fun _ hs =>
    occursIn_sdk_iff hspec hword hfront hback (hspecs.mem_iff.mp hs)

/-- SDK names are not blank. -/
theorem present?_sdk : present? (some (front ++ word ++ back)) = some (front ++ word ++ back) := by
  obtain ⟨c, cs, hname⟩ := List.exists_cons_of_ne_nil (name_isLower hspec).1
  have hc : c ∈ spec.name := hname ▸ List.mem_cons_self
  have hlower : c ∈ Text.lowerAscii (front ++ word ++ back) := by
    rw [lowerAscii_sdk hspec hword hfront hback]
    exact List.mem_append_left _ (List.mem_append_right _ hc)
  obtain ⟨d, hd, rfl⟩ := List.mem_map.mp hlower
  have halpha : d.isAlpha = true :=
    (Char.isAlpha_toLower_eq_isAlpha d).symm.trans (isAlpha_of_mem_name hspec hc)
  have hblank : Text.isAllBlank (front ++ word ++ back) = false :=
    Text.isAllBlank_eq_false_iff.mpr ⟨d, hd, Text.isBlank_of_isAlpha halpha⟩
  rw [present?, Option.filter_some, hblank, Bool.not_false, if_pos rfl]

end

/-- **An SDK name gives the platform that it names.**  Without an override and an exact name, the
platform is the one whose name stands in the SDK name, in any letter case and with no letters around
it.  No other variable has a part in it, and neither has the order of the known platforms. -/
theorem resolvePlatform_sdk (hspec : spec ∈ known) (hword : Text.IsCasing spec.name word)
    (hfront : ∀ c ∈ front, c.isAlpha = false) (hback : ∀ c ∈ back, c.isAlpha = false)
    (hoverride : present? override = none) (hname : valueOf? env nameVariable = none)
    (hsdk : env sdkVariable = some (front ++ word ++ back)) :
    resolvePlatform env override = ⟨spec.name, [nameVariable, sdkVariable]⟩ ∧
      ∀ specs, specs.Perm known → platformAmong specs env override = spec.name := by
  have hvalue : valueOf? env sdkVariable = some (front ++ word ++ back) := by
    rw [valueOf?, hsdk]
    exact present?_sdk hspec hword hfront hback
  have hfound {specs : List Spec} (hspecs : specs.Perm known) :
      (valueOf? env sdkVariable).bind (firstInSdk? specs) = some spec := by
    rw [hvalue, Option.bind_some]
    exact firstInSdk?_sdk hspec hword hfront hback hspecs
  have hplatform : resolvePlatform env override = ⟨spec.name, [nameVariable, sdkVariable]⟩ := by
    have hknown : (valueOf? env sdkVariable).bind specInSdk? = some spec := hfound (.refl known)
    unfold resolvePlatform
    rw [hoverride, hname, hknown]
  refine ⟨hplatform, fun specs hspecs => ?_⟩
  calc
    platformAmong specs env override = platformAmong known env override := by
      unfold platformAmong
      rw [hfound hspecs, hfound (.refl known)]
    _ = (resolvePlatform env override).value := platformAmong_known env override
    _ = spec.name := by rw [hplatform]

/-- The variables of a build that names its platform in the SDK name only, behind a sign for kelvin
that is a letter outside ASCII. -/
def kelvinBuild : Environment := fun name =>
  [(nameVariable, " ".toList), (sdkVariable, "\u212a1.XrOs2".toList),
    (simulatorVariable, "Vision".toList)].lookup name

/-- The SDK name of this build gives `xros`, also if the known platforms are looked for from the last one
to the first. -/
theorem resolvePlatform_sdk_kelvin :
    resolvePlatform kelvinBuild none = ⟨"xros".toList, [nameVariable, sdkVariable]⟩ ∧
      platformAmong known.reverse kelvinBuild none = "xros".toList := by
  have hspec : ⟨"xros".toList, "XROS_DEPLOYMENT_TARGET".toList, "1.0".toList⟩ ∈ known := by decide
  have hword : Text.IsCasing "xros".toList "XrOs".toList := by decide
  have hfront : ∀ c ∈ "\u212a1.".toList, c.isAlpha = false := by simp
  have hback : ∀ c ∈ "2".toList, c.isAlpha = false := by simp
  have hoverride : present? none = none := rfl
  have hname : valueOf? kelvinBuild nameVariable = none := by decide
  have hsdk : kelvinBuild sdkVariable =
      some ("\u212a1.".toList ++ "XrOs".toList ++ "2".toList) := by
    decide
  obtain ⟨hplatform, hany⟩ := resolvePlatform_sdk hspec hword hfront hback hoverride hname hsdk
  exact ⟨hplatform, hany known.reverse known.reverse_perm⟩

end Platform

end IconAssets
