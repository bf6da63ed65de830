namespace Patternwork.Decimal

/-- A positive dyadic number `significand * 2 ^ exponent`. -/
structure Dyadic where
  significand : Nat
  exponent : Int
  deriving DecidableEq, Repr

/-- A decimal number `digits * 10 ^ exponent`. -/
structure Scaled where
  digits : Nat
  exponent : Int
  deriving DecidableEq, Repr

/-- What the bits of a double stand for. -/
inductive Reading where
  | notANumber
  | infinite (negative : Bool)
  | zero (negative : Bool)
  | finite (negative : Bool) (magnitude : Dyadic)
  deriving DecidableEq, Repr

/-- Splits a double into sign, significand and exponent. -/
def Reading.ofFloat (x : Float) : Reading :=
  let bits := x.toBits.toNat
  let negative := Nat.pow 2 63 ≤ bits
  let field : Nat := bits / Nat.pow 2 52 % Nat.pow 2 11
  let fraction : Nat := bits % Nat.pow 2 52
  if field = Nat.pow 2 11 - 1 then
    if fraction = 0 then .infinite negative else .notANumber
  else if field = 0 then
    if fraction = 0 then .zero negative else .finite negative ⟨fraction, -1074⟩
  else .finite negative ⟨Nat.pow 2 52 + fraction, (field : Int) - 1075⟩

/-- Compares `a * 2 ^ i` with `d * 10 ^ k` without leaving the natural numbers. -/
def compareScaled (a : Nat) (i : Int) (d : Nat) (k : Int) : Ordering :=
  compare (a * Nat.pow 2 i.toNat * Nat.pow 10 (-k).toNat)
    (d * Nat.pow 10 k.toNat * Nat.pow 2 (-i).toNat)

namespace Dyadic

/-- The halfway point below, in quarters of the last place: the gap below a
    power of two is half the gap above it. -/
def lowerQuarters (v : Dyadic) : Nat :=
  4 * v.significand - if v.significand = Nat.pow 2 52 ∧ -1074 < v.exponent then 1 else 2

/-- The halfway point above, in quarters of the last place. -/
def upperQuarters (v : Dyadic) : Nat :=
  4 * v.significand + 2

/-- A decimal rounds to `v` when it lies between the halfway points; a halfway
    point itself goes to the even significand. -/
def rounds (v : Dyadic) (s : Scaled) : Bool :=
  let below := compareScaled v.lowerQuarters (v.exponent - 2) s.digits s.exponent
  let above := compareScaled v.upperQuarters (v.exponent - 2) s.digits s.exponent
  if v.significand % 2 = 0 then below != .gt && above != .lt
  else below == .lt && above == .gt

/-- The whole number of steps of `10 ^ k` that fit into `v`. -/
def steps (v : Dyadic) (k : Int) : Nat :=
  v.significand * Nat.pow 2 v.exponent.toNat * Nat.pow 10 (-k).toNat
    / (Nat.pow 10 k.toNat * Nat.pow 2 (-v.exponent).toNat)

/-- All digits of `v`. -/
def exact (v : Dyadic) : Scaled :=
  if 0 ≤ v.exponent then ⟨v.significand * Nat.pow 2 v.exponent.toNat, 0⟩
  else ⟨v.significand * Nat.pow 5 (-v.exponent).toNat, v.exponent⟩

/-- An exponent `k` with `v < 10 ^ k`. -/
def ceiling (v : Dyadic) : Int :=
  (v.exponent + 54) * 30103 / 100000 + 1

end Dyadic

/-- What to write for a value halfway between two candidates. -/
inductive Tie where
  | up
  | even
  deriving DecidableEq, Repr

namespace Dyadic

/-- The neighbours of `v` on the grid of `10 ^ k` that round to `v`, the one to
    write first. -/
def candidates (tie : Tie) (v : Dyadic) (k : Int) : List Scaled :=
  let d := v.steps k
  let lower : Scaled := ⟨d, k⟩
  let upper : Scaled := ⟨d + 1, k⟩
  let ordered :=
    match compareScaled (2 * v.significand) v.exponent (2 * d + 1) k with
    | .lt => [lower, upper]
    | .gt => [upper, lower]
    | .eq => if tie = Tie.up ∨ d % 2 = 1 then [upper, lower] else [lower, upper]
  ordered.filter fun s => 0 < s.digits && v.rounds s

/-- Searches the grids `10 ^ k, 10 ^ (k - 1), …`; the first grid with a
    candidate has the fewest digits. -/
def search (tie : Tie) (v : Dyadic) : Nat → Int → Scaled
  | 0, _ => v.exact
  | fuel + 1, k =>
    match v.candidates tie k with
    | s :: _ => s
    | [] => search tie v fuel (k - 1)

/-- The decimal with the fewest digits that rounds to `v`, and of those the
    nearest to `v`. All reals that round to `v` lie between two halfway points; the decimal is a
    point of the coarsest decimal grid that has one there too. -/
def shortest (tie : Tie) (v : Dyadic) : Scaled :=
  v.search tie 24 v.ceiling

end Dyadic

end Patternwork.Decimal
