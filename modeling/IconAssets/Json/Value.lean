import IconAssets.Decimal.Binary64
import IconAssets.Text.Basic

/-!
# JSON values

A JSON value of any shape.  The members of an object stand in the order in which they are
written; the reader keeps them sorted by key, with one member for each key.
-/

namespace IconAssets
namespace Json

/-- A number: an integer of up to 64 bits, or a double. -/
inductive Number where
  | integer (i : Int)
  | float (f : Binary64)
  deriving DecidableEq, Repr

/-- A JSON value. -/
inductive Value where
  | null
  | bool (b : Bool)
  | number (n : Number)
  | string (t : Text)
  | array (items : List Value)
  | object (members : List (Text × Value))
  deriving Repr

/-- Sets a member of an object whose members are sorted by key. -/
def setMember (key : Text) (value : Value) : List (Text × Value) → List (Text × Value)
  | [] => [(key, value)]
  | (k, v) :: ms =>
    if k = key then (key, value) :: ms
    else if Text.comesBefore key k then (key, value) :: (k, v) :: ms
    else (k, v) :: setMember key value ms

namespace Value

/-- The member of an object with a given key. -/
def member? (key : Text) : List (Text × Value) → Option Value
  | [] => none
  | (k, v) :: ms => if k = key then some v else member? key ms

end Value

@[simp] theorem member?_setMember_self (key : Text) (value : Value) (ms : List (Text × Value)) :
    Value.member? key (setMember key value ms) = some value := by
  induction ms with
  | nil => simp [setMember, Value.member?]
  | cons m ms ih =>
    obtain ⟨k, v⟩ := m
    unfold setMember
    split
    · simp [Value.member?]
    · split
      · simp [Value.member?]
      · simp [Value.member?, *]

/-- Setting a member leaves the members with other keys alone. -/
theorem member?_setMember_of_ne {key other : Text} (h : other ≠ key) (value : Value)
    (ms : List (Text × Value)) :
    Value.member? other (setMember key value ms) = Value.member? other ms := by
  induction ms with
  | nil => simp [setMember, Value.member?, Ne.symm h]
  | cons m ms ih =>
    obtain ⟨k, v⟩ := m
    unfold setMember
    split
    · next hk => subst hk; simp [Value.member?, Ne.symm h]
    · split
      · simp [Value.member?, Ne.symm h]
      · simp [Value.member?, ih]

end Json
end IconAssets
