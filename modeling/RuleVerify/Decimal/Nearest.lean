import RuleVerify.Decimal.Shortest

namespace RuleVerify.Decimal

/-- The binary64 number nearest to `n * 2 ^ q`, or to a number between that and `(n + 1) * 2 ^ q`
    when something was cut off. Then `n` has to have more than 54 bits, and one more bit stands for
    all that was cut. -/
def nearestFrom (n : Nat) (cut : Bool) (q : Int) : Float :=
  (Float.ofNat (2 * n + if cut then 1 else 0)).scaleB (q - 1)

/-- The binary64 number nearest to `n * 2 ^ q`. -/
def nearest (n : Nat) (q : Int) : Float :=
  let shift := n.log2 - 60
  let top := n / Nat.pow 2 shift
  nearestFrom top (top * Nat.pow 2 shift != n) (q + shift)

/-- The mantissa with the sign of the number. -/
def signedMantissa (x : Float) : Int :=
  let m := Int.ofNat (Binary.ofFloat x).mantissa
  if isNegative x then -m else m

/-- A product and a sum with one rounding, for finite numbers. -/
def mulAdd (x y z : Float) : Float :=
  let productExponent := (Binary.ofFloat x).exponent + (Binary.ofFloat y).exponent
  let sumExponent := (Binary.ofFloat z).exponent
  let exponent := min productExponent sumExponent
  let sum :=
    signedMantissa x * signedMantissa y * Nat.pow 2 (productExponent - exponent).toNat
      + signedMantissa z * Nat.pow 2 (sumExponent - exponent).toNat
  let magnitude := nearest sum.natAbs exponent
  if sum < 0 then -magnitude else magnitude

/-- The exact remainder of a division that truncates. It has the sign of `x`, and needs no more
    binary digits than its operands, so nothing is rounded. -/
def remainder (x y : Float) : Float :=
  if x.isNaN || y.isNaN || x.isInf || y == 0 then 0 / 0
  else if y.isInf then x
  else
    let a := Binary.ofFloat x
    let b := Binary.ofFloat y
    let exponent := min a.exponent b.exponent
    let m := a.mantissa * Nat.pow 2 (a.exponent - exponent).toNat
    let n := b.mantissa * Nat.pow 2 (b.exponent - exponent).toNat
    let magnitude := (Float.ofNat (m % n)).scaleB exponent
    if isNegative x then -magnitude else magnitude

end RuleVerify.Decimal
