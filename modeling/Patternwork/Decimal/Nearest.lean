namespace Patternwork.Decimal

/-- The number of steps of `2 ^ exponent` in a fraction, rounded to the nearest, and of two equally
    near to the even one. -/
def roundedSteps (numerator denominator : Nat) (exponent : Int) : Nat :=
  let n := numerator * Nat.pow 2 (-exponent).toNat
  let d := denominator * Nat.pow 2 exponent.toNat
  let steps := n / d
  match compare (2 * (n % d)) d with
  | .lt => steps
  | .eq => steps + steps % 2
  | .gt => steps + 1

/-- The exponent of the last place of the double below a fraction. -/
def lastPlace (numerator denominator : Nat) : Int :=
  let guess := (numerator.log2 : Int) - denominator.log2 - 52
  let fits :=
    denominator * Nat.pow 2 (52 + guess).toNat ≤ numerator * Nat.pow 2 (-52 - guess).toNat
  max (-1074) (if fits then guess else guess - 1)

/-- The double nearest to a fraction, unless it is out of range. -/
def nearest? (numerator denominator : Nat) : Option Float :=
  if numerator = 0 then some 0.0
  else
    let exponent := lastPlace numerator denominator
    let significand := roundedSteps numerator denominator exponent
    let bits :=
      if significand < Nat.pow 2 52 then significand
      else (exponent + 1074).toNat * Nat.pow 2 52 + significand
    if bits < 2047 * Nat.pow 2 52 then some (Float.ofBits (UInt64.ofNat bits)) else none

/-- The double nearest to `digits * 10 ^ exponent`, unless it is out of range. A
    number far outside the range of doubles is not worked out. -/
def ofScaled? (digits : Nat) (exponent : Int) : Option Float :=
  let size := (toString digits).length + exponent
  if digits = 0 ∨ size < -330 then some 0.0
  else if 310 < size then none
  else nearest? (digits * Nat.pow 10 exponent.toNat) (Nat.pow 10 (-exponent).toNat)

end Patternwork.Decimal
