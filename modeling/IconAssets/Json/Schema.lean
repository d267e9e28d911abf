import IconAssets.Json.Printer

/-!
# Schemas of JSON values

A schema is made of keywords.  A keyword demands something of the values that it is about and lets
all other values pass, so an object without some key has the same faults whatever the schema says
about the member with this key.
-/

namespace IconAssets
namespace Json

/-- The types that schemas tell apart. -/
inductive Kind where
  | null
  | boolean
  | number
  | string
  | array
  | object
  deriving DecidableEq, Repr

def Kind.name : Kind → String
  | .null => "null"
  | .boolean => "boolean"
  | .number => "number"
  | .string => "string"
  | .array => "array"
  | .object => "object"

def Value.kind : Value → Kind
  | .null => .null
  | .bool _ => .boolean
  | .number _ => .number
  | .string _ => .string
  | .array _ => .array
  | .object _ => .object

/-- A keyword, or two schemas next to each other. -/
inductive Schema where
  /-- A value is of a type. -/
  | type (kind : Kind)
  /-- An object has a member with a key. -/
  | required (key : Text)
  /-- If an object has a member with a key, this fits a schema. -/
  | property (key : Text) (schema : Schema)
  /-- Each item of an array fits a schema. -/
  | items (schema : Schema)
  | both (first second : Schema)
  deriving DecidableEq, Repr

namespace Schema

/-- What a value lacks. -/
inductive Fault where
  | wrongType (value : Value) (kind : Kind)
  | missing (key : Text)
  deriving Repr

/-- The words for a fault. -/
def Fault.message : Fault → String
  | .wrongType v k => String.ofList v.compact ++ " is not of type \"" ++ k.name ++ "\""
  | .missing key => String.ofList (printString key) ++ " is a required property"

/-- The faults that a schema finds in a value. -/
def faults : Schema → Value → List Fault
  | .type k, v => if v.kind = k then [] else [.wrongType v k]
  | .required key, .object members =>
    if (Value.member? key members).isNone then [.missing key] else []
  | .property key schema, .object members =>
    match Value.member? key members with
    | none => []
    | some v => schema.faults v
  | .items schema, .array vs => vs.flatMap schema.faults
  | .both first second, v => first.faults v ++ second.faults v
  | .required _, _ | .property _ _, _ | .items _, _ => []

variable {v : Value} {members : List (Text × Value)} {key : Text} {schema : Schema}

@[simp] theorem faults_type_eq_nil_iff {k : Kind} : (type k).faults v = [] ↔ v.kind = k := by
  by_cases h : v.kind = k <;> simp [faults, h]

@[simp] theorem faults_required_object_eq_nil_iff :
    (required key).faults (.object members) = [] ↔ ∃ v, Value.member? key members = some v := by
  cases h : Value.member? key members <;> simp [faults, h]

@[simp] theorem faults_property_object_eq_nil_iff :
    (property key schema).faults (.object members) = [] ↔
      ∀ v, Value.member? key members = some v → schema.faults v = [] := by
  cases h : Value.member? key members <;> simp [faults, h]

@[simp] theorem faults_items_array_eq_nil_iff {vs : List Value} :
    (items schema).faults (.array vs) = [] ↔ ∀ v ∈ vs, schema.faults v = [] := by
  simp [faults, List.flatMap_eq_nil_iff]

@[simp] theorem faults_both_eq_nil_iff {first second : Schema} :
    (both first second).faults v = [] ↔ first.faults v = [] ∧ second.faults v = [] := by
  simp [faults]

end Schema
end Json
end IconAssets
