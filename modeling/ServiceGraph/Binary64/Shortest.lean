import ServiceGraph.Binary64.Round

/-!
# Binary64 — the shortest decimal that reads back

Every finite positive binary64 number `v` owns an interval of reals that round to it: halfway to
each neighbour, the ends included when the significand is even (a tie goes to the even one). The
shortest decimal of `v` is the decimal with the fewest significant digits inside that interval, and
of those the nearest to `v` (`shortest`).

For each digit count `k` from 1 up, only the two `k`-digit neighbours of `v` need a test: when any
`k`-digit decimal lies in the interval, the one of the two neighbours on its side of `v` does too,
since the interval holds `v` and has no gaps. Seventeen digits always suffice.
All arithmetic is exact, on naturals.
-/

namespace ServiceGraph.Binary64

/-- A decimal `digits · 10 ^ exponent`. -/
structure Decimal where
  digits : Nat
  exponent : Int
  deriving DecidableEq

/-- Compares `c · 10 ^ s` with `x · 2 ^ t` exactly. -/
def compareScaled (c : Nat) (s : Int) (x : Nat) (t : Int) : Ordering :=
  let lhs := c * Nat.pow 10 s.toNat * Nat.pow 2 (-t).toNat
  let rhs := x * Nat.pow 2 t.toNat * Nat.pow 10 (-s).toNat
  compare lhs rhs

/-- `⌊m · 2 ^ q / 10 ^ s⌋`. -/
def floorScaled (m : Nat) (q s : Int) : Nat :=
  (m * Nat.pow 2 q.toNat * Nat.pow 10 (-s).toNat) /
    (Nat.pow 2 (-q).toNat * Nat.pow 10 s.toNat)

/-- `⌊log₁₀ (m · 2 ^ q)⌋` for a positive `m`: an estimate from the binary exponent, then moved
until `10 ^ e ≤ m · 2 ^ q < 10 ^ (e + 1)`. -/
def floorLog10 (m : Nat) (q : Int) : Int :=
  let guess : Int := ((Nat.log2 m : Int) + q) * 30103 / 100000
  let fix : Int → Int := fun e =>
    if compareScaled 1 e m q == .gt then e - 1
    else if compareScaled 1 (e + 1) m q != .gt then e + 1
    else e
  fix (fix (fix guess))

/-- The reals that round to a finite positive number, as `(low, high)` in units of `2 ^ (q - 2)`,
with whether the ends belong to it. -/
structure Interval where
  low : Nat
  high : Nat
  closed : Bool

/-- The rounding interval of `m · 2 ^ q`, where `boundary` says that the gap below is half the gap
above (a power of two above the least normal binade). -/
def Interval.around (m : Nat) (boundary : Bool) : Interval :=
  { low := if boundary then 4 * m - 1 else 4 * m - 2
    high := 4 * m + 2
    closed := m % 2 == 0 }

/-- Whether `c · 10 ^ s` lies in the rounding interval of a number with binary exponent `q`. -/
def Interval.holds (i : Interval) (q : Int) (c : Nat) (s : Int) : Bool :=
  let aboveLow := compareScaled c s i.low (q - 2)
  let belowHigh := compareScaled c s i.high (q - 2)
  (aboveLow == .gt || (i.closed && aboveLow == .eq)) &&
    (belowHigh == .lt || (i.closed && belowHigh == .eq))

/-- Drops trailing zero digits into the exponent. -/
def Decimal.trim (d : Decimal) : Decimal :=
  if h : d.digits ≠ 0 ∧ d.digits % 10 = 0 then
    Decimal.trim ⟨d.digits / 10, d.exponent + 1⟩
  else d
termination_by d.digits
decreasing_by exact Nat.div_lt_self (Nat.pos_of_ne_zero h.1) (by decide)

/-- The nearest `k`-digit decimal of `m · 2 ^ q` inside the interval, if one is. -/
def candidate (m : Nat) (q : Int) (i : Interval) (top : Int) (k : Nat) : Option Decimal :=
  let s := top - k + 1
  let lo := floorScaled m q s
  let hi := lo + 1
  match i.holds q lo s, i.holds q hi s with
  | true, true =>
    -- nearer of the two: compare `2v` with `(2 lo + 1) · 10 ^ s`
    match compareScaled (2 * lo + 1) s (2 * m) q with
    | .gt => some ⟨lo, s⟩
    | .lt => some ⟨hi, s⟩
    | .eq => some ⟨if lo % 2 = 0 then lo else hi, s⟩
  | true, false => some ⟨lo, s⟩
  | false, true => some ⟨hi, s⟩
  | false, false => none

/-- The first digit count from `k` on (at most `fuel` of them) with a candidate. -/
def firstCandidate (m : Nat) (q : Int) (i : Interval) (top : Int) : Nat → Nat → Decimal
  | 0, k => ⟨floorScaled m q (top - k + 1), top - k + 1⟩
  | fuel + 1, k =>
    match candidate m q i top k with
    | some d => d
    | none => firstCandidate m q i top fuel (k + 1)

/-- The shortest decimal of a finite positive pattern (`0` for a zero). -/
def shortest (b : UInt64) : Decimal :=
  let v := decode b
  if v.significand = 0 then ⟨0, 0⟩
  else
    let boundary := fractionField b == 0 && exponentField b > 1
    let i := Interval.around v.significand boundary
    let top := floorLog10 v.significand v.exponent
    (firstCandidate v.significand v.exponent i top 17 1).trim

end ServiceGraph.Binary64
