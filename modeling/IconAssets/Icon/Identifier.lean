import IconAssets.Icon.Modifier

/-!
# Icon identifiers

An identifier such as `ph.arrow.up.bold` is a provider code followed by one or more nonempty
segments, with dots in between.  The last segment names a modifier if the provider has one of
that name and a segment is left over for the base name; otherwise all segments belong to the
base name and the provider's default applies.

The asset name of an identifier is its canonical spelling: the modifier is written only when it
is not the default.
-/

namespace IconAssets

/-- The segments of a base name and the modifier that the segments after a code spell. -/
def Provider.splitModifier (p : Provider) (segments : List Text) : List Text × Modifier :=
  match segments.dropLast, segments.getLast? with
  | first :: more, some last =>
    match p.modifier? last with
    | some m => (first :: more, m)
    | none => (segments, p.defaultModifier)
  | _, _ => (segments, p.defaultModifier)

/-- An icon in one rendition.  The base name keeps its dots. -/
structure Identifier where
  /-- The name of the icon, with the dots between its segments. -/
  baseName : Text
  /-- The rendition, which also tells the provider. -/
  modifier : Modifier
  deriving DecidableEq, Repr

namespace Identifier

/-- The provider of the icon. -/
def provider (i : Identifier) : Provider := i.modifier.provider

/-- Reads an identifier.  A text without dot, with an empty segment or with an unknown code is
none. -/
def parse (raw : Text) : Option Identifier :=
  match Text.pieces '.' raw with
  | code :: first :: more =>
    if [] ∈ code :: first :: more then none
    else
      (Provider.ofCode? code).map fun p =>
        let split := p.splitModifier (first :: more)
        ⟨Text.glue '.' split.1, split.2⟩
  | _ => none

/-- The canonical spelling, which names the catalog entry of the icon. -/
def assetName (i : Identifier) : Text :=
  i.provider.code ++ '.' :: i.baseName ++
    if i.modifier.isDefault then [] else '.' :: i.modifier.name

/-- The base name as source files spell it: Ionicons files have hyphens for dots. -/
def fileStem (i : Identifier) : Text :=
  match i.provider with
  | .phosphor => i.baseName
  | .ionicons => i.baseName.map fun c => if c = '.' then '-' else c

/-- Whether the icon is drawn in the Ionicons outline variant. -/
def isOutline (i : Identifier) : Bool := i.modifier = .variant .outline

end Identifier

end IconAssets
