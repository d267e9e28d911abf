import IconAssets.Json.Document
import IconAssets.Json.Schema

/-!
# Manifests

A manifest lists the icon references that a scan found, in the order of the scan: an object whose
member `icons` is an array of strings.  Other members do not count.

A text is made into a manifest in three steps, each of which may refuse it.  It has to be JSON, its
value has to fit a schema, and the list is then taken out of the value.  The schema names every item
that is not a string.
-/

namespace IconAssets
namespace Manifest

/-- The key of the list. -/
def iconsKey : Text := "icons".toList

/-- The JSON value of a manifest. -/
def toJson (icons : List Text) : Json.Value := .object [(iconsKey, .array (icons.map .string))]

/-- The text of a manifest. -/
def print (icons : List Text) : Text := (toJson icons).pretty

/-- What the value of a manifest has to look like. -/
def schema : Json.Schema :=
  .both (.type .object) <| .both (.required iconsKey) <|
    .property iconsKey (.both (.type .array) (.items (.type .string)))

/-- Why a text is no manifest. -/
inductive Flaw where
  /-- The text is not JSON. -/
  | malformed (fault : Json.Fault)
  /-- The value does not fit the schema. -/
  | unfit (faults : List Json.Schema.Fault)
  /-- No list can be taken out of the value. -/
  | undecodable (reason : Json.Reason)

/-- The text of a string. -/
def decodeText : Json.Value → Except Json.Reason Text
  | .string t => .ok t
  | v => .error (.invalidType v.found "a string".toList)

/-- The texts of an array of strings. -/
def decodeTexts : Json.Value → Except Json.Reason (List Text)
  | .array items => items.mapM decodeText
  | v => .error (.invalidType v.found "a sequence".toList)

/-- The list of a manifest.  It is a member of an object; an array with the list as its only item
would do as well. -/
def decode : Json.Value → Except Json.Reason (List Text)
  | .object members =>
    match Json.Value.member? iconsKey members with
    | none => .error (.missingField iconsKey)
    | some v => decodeTexts v
  | .array [] => .error (.invalidLength 0 "struct Manifest with 1 element".toList)
  | .array [v] => decodeTexts v
  | .array (v :: w :: vs) => do
    let _ ← decodeTexts v
    .error (.invalidLength (w :: v :: vs).length "fewer elements in array".toList)
  | v => .error (.invalidType v.found "struct Manifest".toList)

/-- Refuses a value that does not fit the schema. -/
def validate (v : Json.Value) : Except Flaw Unit :=
  match schema.faults v with
  | [] => .ok ()
  | f :: fs => .error (.unfit (f :: fs))

/-- Reads a manifest. -/
def parse (t : Text) : Except Flaw (List Text) := do
  let v ← (Json.Value.parse t).mapError .malformed
  validate v
  (decode v).mapError .undecodable

/-- The words for a flaw. -/
def Flaw.message : Flaw → String
  | .malformed f => "parsing manifest JSON: " ++ f.message
  | .unfit faults =>
    "manifest failed schema validation:\n" ++
      String.intercalate "\n" (faults.map Json.Schema.Fault.message)
  | .undecodable r => "decoding manifest: " ++ r.message

end Manifest
end IconAssets
