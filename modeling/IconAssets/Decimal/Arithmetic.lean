import IconAssets.Decimal.Quantity

/-!
# Arithmetic with quantities

Each operation finds the exact ratio and rounds it once to a number of 64 bits.  What has no value
is undefined, with a minus sign.  Only roots, powers, logarithms and angles are left to the machine.
-/

namespace IconAssets
namespace Quantity

/-- The bound below which all natural numbers are numbers of 64 bits. -/
def exactBound : Nat := Nat.pow 2 53

/-- The number of 64 bits nearest to a ratio. -/
def nearest (negative : Bool) (num den : Nat) : Quantity :=
  if den = 1 && num < exactBound then .finite negative num 1
  else
    match (BinaryFormat.double.round negative num den).1 with
    | .finite n p q => if p % q = 0 then .finite n (p / q) 1 else .finite n p q
    | q => q

/-- A natural number with a sign. -/
def signed (negative : Bool) (n : Nat) : Int := if negative then -(n : Int) else n

/-- An integer. -/
def ofInt (i : Int) : Quantity := .finite (i < 0) i.natAbs 1

/-- The quantity with the other sign. -/
def negate : Quantity → Quantity
  | .finite n p q => .finite (!n) p q
  | .infinite n => .infinite (!n)
  | .undefined n => .undefined (!n)

/-- Whether a quantity is zero. -/
def isZero : Quantity → Bool
  | .finite _ 0 _ => true
  | _ => false

/-- Whether a quantity has no value. -/
def isUndefined : Quantity → Bool
  | .undefined _ => true
  | _ => false

/-- The sum. -/
def add : Quantity → Quantity → Quantity
  | .undefined n, _ | _, .undefined n => .undefined n
  | .infinite m, .infinite n => if m = n then .infinite m else .undefined true
  | .infinite n, _ | _, .infinite n => .infinite n
  | .finite m p q, .finite n r s =>
    let sum := signed m (p * s) + signed n (r * q)
    if sum = 0 then .finite (m && n) 0 1 else nearest (sum < 0) sum.natAbs (q * s)

/-- The difference. -/
def subtract (a b : Quantity) : Quantity := a.add b.negate

/-- The product. -/
def multiply : Quantity → Quantity → Quantity
  | .undefined n, _ | _, .undefined n => .undefined n
  | .infinite m, b => if b.isZero then .undefined true else .infinite (m ≠ b.isNegative)
  | a, .infinite n => if a.isZero then .undefined true else .infinite (a.isNegative ≠ n)
  | .finite m p q, .finite n r s => nearest (m ≠ n) (p * r) (q * s)

/-- The quotient. -/
def divide : Quantity → Quantity → Quantity
  | .undefined n, _ | _, .undefined n => .undefined n
  | .infinite _, .infinite _ => .undefined true
  | .infinite m, b => .infinite (m ≠ b.isNegative)
  | a, .infinite n => .finite (a.isNegative ≠ n) 0 1
  | .finite m p q, .finite n r s =>
    if r = 0 then if p = 0 then .undefined true else .infinite (m ≠ n)
    else nearest (m ≠ n) (p * s) (q * r)

/-- What is left of a quantity when another one is taken away as often as it goes, with the sign of
the first. -/
def remainder : Quantity → Quantity → Quantity
  | .undefined n, _ | _, .undefined n => .undefined n
  | .infinite _, _ => .undefined true
  | a, .infinite _ => a
  | .finite m p q, .finite _ r s =>
    if r = 0 then .undefined true else nearest m (p * s % (r * q)) (q * s)

/-- Whether a quantity is below another one. -/
def isLess : Quantity → Quantity → Bool
  | .undefined _, _ | _, .undefined _ => false
  | .infinite m, .infinite n => m && !n
  | .infinite m, _ => m
  | _, .infinite n => !n
  | .finite m p q, .finite n r s => signed m (p * s) < signed n (r * q)

/-- The integer next to a quantity on the way to zero. -/
def truncated : Quantity → Quantity
  | .finite n p q => .finite n (p / q) 1
  | a => a

/-- The integer that a quantity is. -/
def toInt? : Quantity → Option Int
  | .finite n p q => if p % q = 0 then some (signed n (p / q)) else none
  | _ => none

/-- The integer between two bounds next to a quantity on the way to zero. -/
def clamped (least greatest : Int) : Quantity → Int
  | .finite n p q => max least (min greatest (signed n (p / q)))
  | .infinite n => if n then least else greatest
  | .undefined _ => least

/-- The number of the machine. -/
def toFloat : Quantity → Float
  | .undefined _ => 0.0 / 0.0
  | .infinite n => if n then -1.0 / 0.0 else 1.0 / 0.0
  | .finite n p q =>
    let x := match BinaryFormat.double.nearest? p q with
      | some (m, e) => (Float.ofNat m).scaleB e
      | none => 1.0 / 0.0
    if n then -x else x

/-- The quantity of a number of the machine. -/
def ofFloat (x : Float) : Quantity :=
  if x.isNaN then .undefined true
  else if x.isInf then .infinite (x < 0.0)
  else
    let (m, e) := x.abs.frExp
    let n := (m.scaleB 53).toUInt64.toNat
    if 53 ≤ e then nearest (x < 0.0) (n * Nat.pow 2 (e - 53).toNat) 1
    else nearest (x < 0.0) n (Nat.pow 2 (53 - e).toNat)

/-- The value of a function of the machine. -/
def applying (f : Float → Float) (a : Quantity) : Quantity :=
  match a with
  | .undefined n => .undefined n
  | a => ofFloat (f a.toFloat)

/-- The value of a function of the machine of two arguments. -/
def applying₂ (f : Float → Float → Float) (a b : Quantity) : Quantity :=
  ofFloat (f a.toFloat b.toFloat)

/-- An integer is its amount with its sign. -/
theorem signed_natAbs (i : Int) : signed (decide (i < 0)) i.natAbs = i := by
  by_cases h : i < 0
  · rw [signed, decide_eq_true h, if_pos rfl]
    omega
  · rw [signed, decide_eq_false h, if_neg Bool.false_ne_true]
    omega

theorem toInt?_ofInt (i : Int) : (ofInt i).toInt? = some i := by
  simp only [ofInt, toInt?, Nat.div_one, Nat.mod_one, signed_natAbs]
  trivial

/-- Small integers are added as integers. -/
theorem toInt?_add_ofInt {i j : Int} (h : (i + j).natAbs < exactBound) :
    ((ofInt i).add (ofInt j)).toInt? = some (i + j) := by
  have hs (k : Int) : signed (decide (k < 0)) (k.natAbs * 1) = k := by
    rw [Nat.mul_one, signed_natAbs]
  simp only [ofInt, add, hs]
  split
  · rename_i h0
    simp [toInt?, signed, h0]
  · simp only [nearest, Nat.mul_one, decide_true, Bool.true_and, decide_eq_true_eq, if_pos h]
    exact toInt?_ofInt (i + j)

end Quantity
end IconAssets
