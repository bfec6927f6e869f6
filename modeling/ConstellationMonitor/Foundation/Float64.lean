/-
  IEEE 754 binary64 numbers by their bits, with the operations a comparison of a
  rounded difference needs.

  Every finite number is an integer multiple of `2 ^ -1074`, so a finite value is held
  as that integer and a difference is exact before it is rounded to 53 significant bits,
  ties to even.
-/
import ConstellationMonitor.Foundation.Text

namespace ConstellationMonitor.Foundation

/-- A binary64 number, as `f64::to_bits` shows it. -/
structure Float64 where
  /-- the encoding -/
  bits : UInt64
  deriving DecidableEq, Inhabited

/-- What an encoding denotes; a finite number in units of `2 ^ -1074`. -/
inductive FloatValue where
  | nan
  | infinite (negative : Bool)
  | finite (units : Int)
  deriving DecidableEq

namespace FloatValue

/-- Round a magnitude to 53 significant bits, ties to even. -/
def roundUnits (magnitude : Nat) : Nat :=
  if magnitude < 2 ^ 53 then magnitude
  else
    let shift := magnitude.log2 - 52
    let quotient := magnitude / 2 ^ shift
    let remainder := magnitude % 2 ^ shift
    let half := 2 ^ (shift - 1)
    let rounded :=
      if remainder > half || (remainder == half && quotient % 2 == 1) then quotient + 1
      else quotient
    rounded * 2 ^ shift

/-- A difference rounded to the format: past the largest exponent it is infinite. -/
def ofUnits (units : Int) : FloatValue :=
  let magnitude := roundUnits units.natAbs
  if 2 ^ 2098 ≤ magnitude then .infinite (decide (units < 0))
  else if units < 0 then .finite (-(magnitude : Int))
  else .finite magnitude

/-- `left - right`. -/
def sub : FloatValue → FloatValue → FloatValue
  | .finite left, .finite right => ofUnits (left - right)
  | .nan, _ => .nan
  | _, .nan => .nan
  | .infinite left, .infinite right => if left = right then .nan else .infinite left
  | .infinite left, .finite _ => .infinite left
  | .finite _, .infinite right => .infinite (!right)

/-- `value.abs()`. -/
def abs : FloatValue → FloatValue
  | .nan => .nan
  | .infinite _ => .infinite false
  | .finite units => .finite units.natAbs

/-- `left < right`; no comparison with a NaN holds. -/
def lt : FloatValue → FloatValue → Bool
  | .finite left, .finite right => decide (left < right)
  | .nan, _ => false
  | _, .nan => false
  | .infinite left, .infinite right => left && !right
  | .infinite left, .finite _ => left
  | .finite _, .infinite right => !right

theorem abs_ofUnits_neg (units : Int) : (ofUnits (-units)).abs = (ofUnits units).abs := by
  unfold ofUnits
  rw [Int.natAbs_neg]
  dsimp only
  split
  · rfl
  · split <;> split <;> simp [abs]

/-- A difference has the same magnitude either way round. -/
theorem abs_sub_comm (left right : FloatValue) : (left.sub right).abs = (right.sub left).abs := by
  cases left with
  | nan => cases right <;> rfl
  | infinite negative =>
    cases right with
    | nan => rfl
    | infinite other => cases negative <;> cases other <;> rfl
    | finite units => rfl
  | finite units =>
    cases right with
    | nan => rfl
    | infinite other => rfl
    | finite other =>
      show (ofUnits (units - other)).abs = (ofUnits (other - units)).abs
      rw [← abs_ofUnits_neg, Int.neg_sub]

end FloatValue

namespace Float64

/-- The number an encoding denotes. -/
def value (number : Float64) : FloatValue :=
  let word := number.bits.toNat
  let negative := decide (2 ^ 63 ≤ word)
  let exponent := word / 2 ^ 52 % 2 ^ 11
  let fraction := word % 2 ^ 52
  if exponent = 2047 then
    if fraction = 0 then .infinite negative else .nan
  else
    let magnitude : Nat :=
      if exponent = 0 then fraction else (2 ^ 52 + fraction) * 2 ^ (exponent - 1)
    .finite (if negative then -(magnitude : Int) else magnitude)

/-- `f64::is_finite`. -/
def isFinite (number : Float64) : Bool :=
  match number.value with
  | .finite _ => true
  | _ => false

/-- `number < 0.0`. -/
def isNegative (number : Float64) : Bool := number.value.lt (.finite 0)

/-- `(left - right).abs() > maximum`. -/
def absDifferenceExceeds (left right maximum : Float64) : Bool :=
  maximum.value.lt (left.value.sub right.value).abs

theorem absDifferenceExceeds_comm (left right maximum : Float64) :
    absDifferenceExceeds left right maximum = absDifferenceExceeds right left maximum := by
  unfold absDifferenceExceeds
  rw [FloatValue.abs_sub_comm]

-- 0.3 - 0.1 rounds to 0.19999999999999998, which stays below 0.2.
example : absDifferenceExceeds ⟨0x3fd3333333333333⟩ ⟨0x3fb999999999999a⟩
    ⟨0x3fc999999999999a⟩ = false := by decide +kernel

end Float64

end ConstellationMonitor.Foundation
