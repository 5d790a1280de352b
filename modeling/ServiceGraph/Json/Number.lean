import ServiceGraph.Binary64.Shortest
import ServiceGraph.Json.Value

/-!
# JSON numbers: the value of a decimal and the text of a number

**Reading.** A decimal with an integer significand `s` and a power of ten `e` becomes the binary64
number `fl(fl(s) × fl(10^e))`, or `fl(fl(s) / fl(10^-e))` for a negative `e`, where `fl` rounds to
nearest: the significand is rounded first and then scaled once by a power of ten from the table of
`10^0 … 10^308` (`fromParts`). This is not always the binary64 number nearest to the decimal, and
the library keeps it so, since it fixes which pattern a text stands for. An exponent beyond the
table divides by `10^308` first; a result that overflows is refused (`outOfRange`).

**Writing.** A binary64 number is written with the fewest significant digits that read back
(`Binary64.shortest`), laid out by a `FloatLayout`: positionally for decimal exponents in a window,
with `.0` on whole numbers, and otherwise as `d.ddd` with an exponent (`Json.floatLayout`).
-/

namespace ServiceGraph.Json

open Binary64

/-- The largest power of ten in the scaling table. -/
def maxTablePower : Nat := 308

/-- The rounded value of `significand · 10 ^ exponent` for a non-negative significand, by one
rounding of the significand and one scaling from the power table; `none` when it overflows. -/
def scaleByTen (f : UInt64) (exponent : Int) : Option UInt64 :=
  if _hsmall : exponent.natAbs ≤ maxTablePower then
    if 0 ≤ exponent then
      let g := mul f (pow10 exponent.natAbs)
      if isSpecial g then none else some g
    else some (div f (pow10 exponent.natAbs))
  else if isZero f then some f
  else if _hpos : 0 ≤ exponent then none
  else scaleByTen (div f (pow10 maxTablePower)) (exponent + maxTablePower)
termination_by exponent.natAbs
decreasing_by simp only [maxTablePower] at *; omega

/-- The binary64 pattern a decimal stands for: sign, integer significand, power of ten. -/
def fromParts (positive : Bool) (significand : Nat) (exponent : Int) : Option UInt64 :=
  (scaleByTen (ofNat significand) exponent).map fun f => if positive then f else negate f

/-- How a binary64 number is laid out as decimal text. With `kk` the decimal exponent of the
number (it lies in `[10 ^ (kk - 1), 10 ^ kk)`), it is written positionally when
`positionalAbove < kk ≤ positionalUpTo`, and otherwise in scientific form. -/
structure FloatLayout where
  positionalAbove : Int
  positionalUpTo : Int
  /-- Whether a non-negative exponent carries a `+`. -/
  plusSign : Bool

/-- Numbers from `1e-5` up to below `1e16` are written positionally, others as `1.5e+20` or
`1e-7`. -/
def floatLayout : FloatLayout := ⟨-5, 16, true⟩

/-- `n` zero characters. -/
def zeros (n : Nat) : String := String.ofList (List.replicate n '0')

/-- The text of a finite binary64 number. -/
def FloatLayout.render (layout : FloatLayout) (bits : UInt64) : String :=
  let sign := if isNegative bits then "-" else ""
  if isZero bits then sign ++ "0.0"
  else
    let d := shortest (bits &&& (signBit ^^^ 0xFFFFFFFFFFFFFFFF))
    let ds := (toString d.digits).toList
    let n : Int := ds.length
    let kk := n + d.exponent
    let body :=
      if 0 ≤ d.exponent ∧ kk ≤ layout.positionalUpTo then
        String.ofList ds ++ zeros d.exponent.toNat ++ ".0"
      else if 0 < kk ∧ kk ≤ layout.positionalUpTo then
        String.ofList (ds.take kk.toNat) ++ "." ++ String.ofList (ds.drop kk.toNat)
      else if layout.positionalAbove < kk ∧ kk ≤ 0 then
        "0." ++ zeros (-kk).toNat ++ String.ofList ds
      else
        let mantissa :=
          match ds with
          | [c] => String.singleton c
          | c :: rest => String.singleton c ++ "." ++ String.ofList rest
          | [] => ""
        let e := kk - 1
        let mark := if e < 0 then "-" else if layout.plusSign then "+" else ""
        mantissa ++ "e" ++ mark ++ toString e.natAbs
    sign ++ body

/-- The text of a number. -/
def Number.render : Number → String
  | .nat n => toString n
  | .neg n => toString n
  | .float bits => floatLayout.render bits

end ServiceGraph.Json
