import RuleVerify.Decimal.Nearest

namespace RuleVerify.Decimal

/-- Extends the root `r` of `n` by lower bits, as long as its `k`-th power stays within `n`. -/
def rootBits (k n : Nat) : Nat → Nat → Nat
  | 0, r => r
  | bits + 1, r =>
    let longer := r + Nat.pow 2 bits
    rootBits k n bits (if Nat.pow longer k ≤ n then longer else r)

/-- The binary64 number nearest to the `k`-th root of `m * 2 ^ q`. The root is taken to more than
    56 bits, which is enough to round it. -/
def nearestRoot (k m : Nat) (q : Int) : Float :=
  if m = 0 then 0
  else
    let shift := min ((Int.ofNat m.log2 + q) / k - 60) (q / k)
    let n := m * Nat.pow 2 (q - k * shift).toNat
    let r := rootBits k n (n.log2 / k + 1) 0
    nearestFrom r (Nat.pow r k != n) shift

/-- Rounded to nearest. -/
def cubeRoot (x : Float) : Float :=
  if x.isNaN || x.isInf || x == 0 then x
  else
    let b := Binary.ofFloat x
    let root := nearestRoot 3 b.mantissa b.exponent
    if isNegative x then -root else root

/-- The root of the sum of two squares, for numbers whose squares are in range. The rounded root
    `h` is off by `(h * h - (x * x + y * y)) / (2 * h)`, and the numerator is computed from the
    difference between `h` and the nearer of the two sides, where little is lost. -/
def correctedHypotenuse (long short : Float) : Float :=
  let h := (long * long + short * short).sqrt
  let excess :=
    if h ≤ 2 * short then
      let d := h - short
      long * (2 * d - long) + (d - 2 * (long - short)) * d
    else
      let d := h - long
      2 * d * (long - 2 * short) + ((4 * d - short) * short + d * d)
  h - excess / (2 * h)

/-- A short side below the last bit of the long one adds nothing but a rounding; very large and very
    small sides are scaled so that their squares are in range. -/
def hypotenuse (x y : Float) : Float :=
  if x.isInf || y.isInf then 1 / 0
  else if x.isNaN || y.isNaN then 0 / 0
  else
    let long := if x.abs < y.abs then y.abs else x.abs
    let short := if x.abs < y.abs then x.abs else y.abs
    let scale : Int := 600
    if short ≤ long.scaleB (-54) then long + short
    else if Float.scaleB 1 511 < long then
      (correctedHypotenuse (long.scaleB (-scale)) (short.scaleB (-scale))).scaleB scale
    else if short < Float.scaleB 1 (-459) then
      (correctedHypotenuse (long.scaleB scale) (short.scaleB scale)).scaleB (-scale)
    else correctedHypotenuse long short

end RuleVerify.Decimal
