/-! # Doubles — 64-bit floats by their bit patterns

    A finite double is a sign and a magnitude `mantissa * 2 ^ exponent`, and
    both are read off the bits.  In the other direction `nearest?` rounds
    a decimal `digits * 10 ^ power` to the nearest double, a tie going to the
    even mantissa, in exact arithmetic on naturals. -/

namespace FaultPages

/-- A power of ten. -/
def tenTo (n : Nat) : Nat := Nat.pow 10 n

/-- A 64-bit float, given by its bits: one of sign, eleven of exponent and
    fifty-two of mantissa. -/
structure Double where
  bits : UInt64
  deriving DecidableEq, Repr

namespace Double

/-- Whether the sign bit is set. -/
def isNegative (x : Double) : Bool := 1 <<< 63 ≤ x.bits.toNat

/-- The bits of the magnitude. -/
def magnitude (x : Double) : Nat := x.bits.toNat % (1 <<< 63)

/-- The magnitude as `(m, q)` with value `m * 2 ^ q`.  Below the least normal
    double the leading bit is absent. -/
def scaled (x : Double) : Nat × Int :=
  let field : Nat := x.magnitude / (1 <<< 52)
  let fraction : Nat := x.magnitude % (1 <<< 52)
  if field = 0 then (fraction, -1074) else (fraction + (1 <<< 52), (field : Int) - 1075)

/-- The same magnitude with the other sign. -/
def negate (x : Double) : Double := ⟨x.bits ^^^ ((1 : UInt64) <<< 63)⟩

/-- A quotient rounded to the nearest natural, a tie going to the even one. -/
def roundQuotient (num den : Nat) : Nat :=
  let q := num / den
  let twice := 2 * (num % den)
  if twice < den then q
  else if den < twice then q + 1
  else if q % 2 = 0 then q else q + 1

/-- `num / den` in units of `2 ^ q`, as a fraction of naturals. -/
def inUnits (num den : Nat) (q : Int) : Nat × Nat :=
  if 0 ≤ q then (num, den <<< q.toNat) else (num <<< (-q).toNat, den)

/-- The non-negative double nearest to a positive fraction; nothing if it is too
    large.  The unit is the least one in which the value has at most fifty-three
    bits, and no less than that of the smallest doubles. -/
def nearestFraction? (num den : Nat) : Option Double :=
  let guess := max (-1074) ((num.log2 : Int) - den.log2 - 53)
  let (n₀, d₀) := inUnits num den guess
  let q := if 1 <<< 53 ≤ n₀ / d₀ then guess + 1 else guess
  let (n, d) := inUnits num den q
  let bits := ((q + 1074).toNat <<< 52) + roundQuotient n d
  if bits < 0x7FF0000000000000 then some ⟨bits.toUInt64⟩ else none

/-- The non-negative double nearest to `m * 10 ^ power`, where `m` has
    `digits` decimal digits.  Values that are plainly too large or too small are
    decided before any power is computed. -/
def nearest? (m digits : Nat) (power : Int) : Option Double :=
  if m = 0 then some ⟨0⟩
  else if 310 < (digits : Int) + power then none
  else if (digits : Int) + power < -330 then some ⟨0⟩
  else if 0 ≤ power then nearestFraction? (m * tenTo power.toNat) 1
  else nearestFraction? m (tenTo (-power).toNat)

end Double

end FaultPages
