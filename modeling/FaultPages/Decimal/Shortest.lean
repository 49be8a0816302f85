import FaultPages.Decimal.Binary64
import FaultPages.Text.Basic

/-! # Shortest digits — the fewest decimal digits that read back

    The reals that round to a double form an interval around it, whose ends
    belong to it when the mantissa is even.  For one digit, two digits, and so
    on, the two neighbours of the value on that decimal grid are tried; the
    first grid with a hit wins, of two hits the nearer, and a tie goes to the
    even digit. -/

namespace FaultPages

/-- A positive decimal `d.ddd * 10 ^ exponent`, by its digits from the first
    one, which is not zero. -/
structure Scientific where
  digits : Text
  exponent : Int
  deriving DecidableEq, Repr

namespace Double

/-- The value of a fraction's first decimal digit, as a power of ten. -/
def leadingPower (num den : Nat) : Int :=
  if den ≤ num then (Text.decimal (num / den)).length - 1
  else
    let n := (Text.decimal (den / num)).length
    if den ≤ num * tenTo (n - 1) then 1 - (n : Int) else -(n : Int)

/-- A fraction together with the bounds of the interval that rounds to it, all
    over one denominator. -/
structure Interval where
  low : Nat
  value : Nat
  high : Nat
  den : Nat
  closed : Bool

/-- The interval of reals that round to a positive double.  The lower half is
    shorter where the mantissa is the least one of its exponent. -/
def interval (x : Double) : Interval :=
  let (m, q) := x.scaled
  let below := if m = 1 <<< 52 ∧ -1074 < q then 1 else 2
  let unit := 1 <<< (q - 2).toNat
  { low := (4 * m - below) * unit
    value := 4 * m * unit
    high := (4 * m + 2) * unit
    den := 1 <<< (2 - q).toNat
    closed := m % 2 = 0 }

/-- Whether the decimal `n * step` lies in the interval, where `step` is a
    fraction. -/
def Interval.holds (i : Interval) (n stepNum stepDen : Nat) : Bool :=
  let scaled := n * stepNum * i.den
  let low := i.low * stepDen
  let high := i.high * stepDen
  if i.closed then low ≤ scaled && scaled ≤ high else low < scaled && scaled < high

/-- The multiple of `step` next to the value that lies in the interval, if
    either neighbour does. -/
def Interval.neighbour? (i : Interval) (stepNum stepDen : Nat) : Option Nat :=
  let num := i.value * stepDen
  let den := i.den * stepNum
  let n := num / den
  match i.holds n stepNum stepDen && n != 0, i.holds (n + 1) stepNum stepDen with
  | false, false => none
  | true, false => some n
  | false, true => some (n + 1)
  | true, true => some (Double.roundQuotient num den)

/-- Try ever finer grids, from `digits` digits on, at most `fuel` of them. -/
def Interval.shortest (i : Interval) (power : Int) : Nat → Nat → Nat × Int
  | 0, digits => (i.value, power - digits)
  | fuel + 1, digits =>
    let step := power - digits + 1
    match i.neighbour? (tenTo step.toNat) (tenTo (-step).toNat) with
    | some n => (n, step)
    | none => i.shortest power fuel (digits + 1)

/-- The shortest decimal that reads back as a finite double other than zero,
    without its sign.  Seventeen digits are always enough. -/
def shortest (x : Double) : Scientific :=
  let i := x.interval
  let (n, step) := i.shortest (leadingPower i.value i.den) 17 1
  let digits := Text.decimal n
  { digits := Text.trimEndOf '0' digits
    exponent := step + digits.length - 1 }

end Double

end FaultPages
