import IconAssets.Text.Basic

/-!
# Providers and modifiers

Icons come from two providers.  Each draws its icons in several renditions: Phosphor in weights,
Ionicons in variants.  A modifier names one rendition; the provider it belongs to can be read
off it.

Results:

* `Provider.ofCode?_eq_some_iff` : a code stands for exactly one provider;
* `Provider.modifier?_eq_some_iff` : which words name which modifiers.
-/

namespace IconAssets

/-- A family of icons with one directory of source images. -/
inductive Provider where
  | phosphor
  | ionicons
  deriving DecidableEq, Repr

/-- A Phosphor rendition. -/
inductive Weight where
  | regular
  | thin
  | light
  | bold
  | fill
  deriving DecidableEq, Repr

/-- An Ionicons rendition. -/
inductive Variant where
  | filled
  | outline
  | sharp
  deriving DecidableEq, Repr

/-- A rendition of one of the providers. -/
inductive Modifier where
  | weight (w : Weight)
  | variant (v : Variant)
  deriving DecidableEq, Repr

namespace Weight

/-- The word that names a weight in identifiers and file names. -/
def name : Weight → Text
  | .regular => "regular".toList
  | .thin => "thin".toList
  | .light => "light".toList
  | .bold => "bold".toList
  | .fill => "fill".toList

end Weight

namespace Variant

/-- The word that names a variant in identifiers and file names. -/
def name : Variant → Text
  | .filled => "default".toList
  | .outline => "outline".toList
  | .sharp => "sharp".toList

end Variant

namespace Provider

/-- All providers, in the order in which codes are tried. -/
def all : List Provider := [.phosphor, .ionicons]

/-- The first segment of the provider's identifiers. -/
def code : Provider → Text
  | .phosphor => "ph".toList
  | .ionicons => "ion".toList

/-- The provider with a given code. -/
def ofCode? (code : Text) : Option Provider := all.find? fun p => p.code = code

/-- The rendition of an identifier that names none. -/
def defaultModifier : Provider → Modifier
  | .phosphor => .weight .regular
  | .ionicons => .variant .filled

/-- The modifiers that an identifier may name at its end.  The plain Ionicons rendition is not
among them: its word is an ordinary segment. -/
def namedModifiers : Provider → List Modifier
  | .phosphor => [Weight.regular, .thin, .light, .bold, .fill].map .weight
  | .ionicons => [Variant.outline, .sharp].map .variant

@[simp] theorem ofCode?_code (p : Provider) : ofCode? p.code = some p := by
  cases p <;> rfl

/-- A code stands for exactly one provider. -/
theorem ofCode?_eq_some_iff {code : Text} {p : Provider} :
    ofCode? code = some p ↔ code = p.code := by
  constructor
  · intro h
    have := List.find?_some h
    simpa [eq_comm] using this
  · rintro rfl
    exact ofCode?_code p

theorem code_injective {p q : Provider} (h : p.code = q.code) : p = q := by
  cases p <;> cases q <;> first | rfl | exact absurd h (by decide)

end Provider

namespace Modifier

/-- The word that names a modifier. -/
def name : Modifier → Text
  | .weight w => w.name
  | .variant v => v.name

/-- The provider a modifier belongs to. -/
def provider : Modifier → Provider
  | .weight _ => .phosphor
  | .variant _ => .ionicons

/-- Whether a modifier is its provider's default. -/
def isDefault (m : Modifier) : Bool := m = m.provider.defaultModifier

end Modifier

namespace Provider

/-- The modifier of a provider that a word names. -/
def modifier? (p : Provider) (word : Text) : Option Modifier :=
  p.namedModifiers.find? fun m => m.name = word

@[simp] theorem provider_defaultModifier (p : Provider) : p.defaultModifier.provider = p := by
  cases p <;> rfl

/-- A word names a modifier when that modifier is on the provider's list and has this name. -/
theorem modifier?_eq_some_iff {p : Provider} {word : Text} {m : Modifier} :
    p.modifier? word = some m ↔ m ∈ p.namedModifiers ∧ m.name = word := by
  constructor
  · intro h
    exact ⟨List.mem_of_find?_eq_some h, by simpa using List.find?_some h⟩
  · rintro ⟨hm, rfl⟩
    cases p <;> cases m with
    | weight w => cases w <;> first | rfl | exact absurd hm (by decide)
    | variant v => cases v <;> first | rfl | exact absurd hm (by decide)

theorem provider_of_modifier? {p : Provider} {word : Text} {m : Modifier}
    (h : p.modifier? word = some m) : m.provider = p := by
  have hm := (modifier?_eq_some_iff.1 h).1
  cases p <;> simp [namedModifiers] at hm <;> rcases hm with rfl | rfl | rfl | rfl | rfl <;> rfl

end Provider

end IconAssets
