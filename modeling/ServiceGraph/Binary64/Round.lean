/-!
# Binary64 — rounding a rational

IEEE 754 binary64 numbers are kept as their 64-bit patterns, so that two numbers are equal exactly
when their patterns are (`-0.0` and `0.0` differ, as they do in text).

A finite pattern stands for `± significand · 2 ^ exponent` (`Finite`, read off by `decode`), and
`nearest` goes the other way: the pattern of the number nearest to a non-negative rational, a tie
going to the even significand, with overflow to infinity. Every arithmetic step the number reader
takes (`ofNat`, `add`, `mul`, `div`) is this one rounding applied to the exact rational result, which is
what IEEE 754 prescribes for round-to-nearest-even.
-/

namespace ServiceGraph.Binary64

/-- The sign bit of a pattern. -/
def signBit : UInt64 := 0x8000000000000000

/-- The pattern of positive infinity. -/
def infinity : UInt64 := 0x7FF0000000000000

/-- The significand width, hidden bit included. -/
def precision : Nat := 53

/-- A finite number as sign, integer significand and power of two. -/
structure Finite where
  negative : Bool
  significand : Nat
  exponent : Int
  deriving DecidableEq

/-- The biased exponent field of a pattern. -/
def exponentField (b : UInt64) : Nat := ((b >>> 52) &&& 0x7FF).toNat

/-- The fraction field of a pattern. -/
def fractionField (b : UInt64) : Nat := (b &&& 0xFFFFFFFFFFFFF).toNat

/-- True when the pattern is an infinity or a NaN. -/
def isSpecial (b : UInt64) : Bool := exponentField b == 0x7FF

/-- True for both zeros. -/
def isZero (b : UInt64) : Bool := (b &&& 0x7FFFFFFFFFFFFFFF) == 0

/-- True when the sign bit is set. -/
def isNegative (b : UInt64) : Bool := (b &&& signBit) != 0

/-- The same number with the other sign. -/
def negate (b : UInt64) : UInt64 := b ^^^ signBit

/-- The value of a finite pattern: subnormals have exponent `-1074` and no hidden bit. -/
def decode (b : UInt64) : Finite :=
  let e := exponentField b
  let f := fractionField b
  if e = 0 then ⟨isNegative b, f, -1074⟩
  else ⟨isNegative b, f + Nat.pow 2 52, (e : Int) - 1075⟩

/-- `n · 2 ^ k` for an integer `k`, as a fraction of naturals. -/
def scaledFraction (n : Nat) (k : Int) : Nat × Nat :=
  if 0 ≤ k then (n * Nat.pow 2 k.toNat, 1) else (n, Nat.pow 2 (-k).toNat)

/-- `⌊log₂ (n / d)⌋` for positive `n` and `d`. -/
def floorLog2 (n d : Nat) : Int :=
  let guess : Int := (Nat.log2 n : Int) - (Nat.log2 d : Int)
  let (num, den) := scaledFraction d guess
  -- `n / d ≥ 2 ^ guess` iff `n * den ≥ num`
  if n * den ≥ num then guess else guess - 1

/-- Rounds `q + r / d` (with `r < d`) to an integer, a half going to the even neighbour. -/
def roundHalfEven (q r d : Nat) : Nat :=
  if 2 * r > d then q + 1
  else if 2 * r = d then (if q % 2 = 1 then q + 1 else q)
  else q

/-- The pattern of the binary64 number nearest to `n / d`, ties to even, overflow to infinity.
A zero numerator or denominator gives `+0.0`. -/
def nearest (n d : Nat) : UInt64 :=
  if n = 0 ∨ d = 0 then 0
  else
    -- the binade, held at the least normal one for subnormal results
    let b := max (floorLog2 n d) (-1022)
    let (num, den) :=
      if 52 - b ≥ 0 then (n * Nat.pow 2 (52 - b).toNat, d)
      else (n, d * Nat.pow 2 (b - 52).toNat)
    let q := roundHalfEven (num / den) (num % den) den
    -- rounding up may carry into the next binade
    let (q, b) := if q = Nat.pow 2 53 then (Nat.pow 2 52, b + 1) else (q, b)
    if b > 1023 then infinity
    else UInt64.ofNat ((b + 1022).toNat * Nat.pow 2 52 + q)

/-- The value of a finite non-negative pattern as a fraction of naturals. -/
def toFraction (b : UInt64) : Nat × Nat :=
  let v := decode b
  scaledFraction v.significand v.exponent

/-- The nearest binary64 number to a natural number. -/
def ofNat (n : Nat) : UInt64 := nearest n 1

/-- The rounded product of two finite non-negative numbers. -/
def mul (a b : UInt64) : UInt64 :=
  let (p, q) := toFraction a
  let (r, s) := toFraction b
  nearest (p * r) (q * s)

/-- The rounded sum of two finite non-negative numbers. -/
def add (a b : UInt64) : UInt64 :=
  let (p, q) := toFraction a
  let (r, s) := toFraction b
  nearest (p * s + r * q) (q * s)

/-- The rounded quotient of two finite non-negative numbers, the divisor non-zero. -/
def div (a b : UInt64) : UInt64 :=
  let (p, q) := toFraction a
  let (r, s) := toFraction b
  nearest (p * s) (q * r)

/-- `10 ^ k` rounded to binary64. -/
def pow10 (k : Nat) : UInt64 := nearest (Nat.pow 10 k) 1

end ServiceGraph.Binary64
