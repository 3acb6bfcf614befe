import RuleVerify.Decimal.Nearest

namespace RuleVerify.Decimal

/-- The logarithm of two, cut so far that small multiples of it are exact. -/
def ln2High : Float := Float.ofBits 0x3fe62e42fee00000

/-- What the first part leaves of the logarithm of two. -/
def ln2Low : Float := Float.ofBits 0x3dea39ef35793c76

/-- The series with `z` for the square of `f / (2 + f)`, in powers of `z` from the first on. -/
def logSeries (z : Float) : Float :=
  let c1 := Float.ofBits 0x3fe5555555555593
  let c2 := Float.ofBits 0x3fd999999997fa04
  let c3 := Float.ofBits 0x3fd2492494229359
  let c4 := Float.ofBits 0x3fcc71c51d8e78af
  let c5 := Float.ofBits 0x3fc7466496cb03de
  let c6 := Float.ofBits 0x3fc39a09d078c69f
  let c7 := Float.ofBits 0x3fc2f112df3e5244
  let z2 := z * z
  let z4 := z2 * z2
  let low := mulAdd z c1 (z2 * mulAdd z c3 c2)
  mulAdd (z4 * z2) (mulAdd z c7 c6) (mulAdd z4 (mulAdd z c5 c4) low)

/-- The logarithm of `2 ^ k * (1 + f)`, corrected by `c` for what was rounded away. Close to a power
    of two, two terms of the series are enough. -/
def logScaled (k : Int) (f c : Float) : Float :=
  let half := 0.5 * f * f
  let power := Float.ofInt k
  let low := mulAdd power ln2Low c
  if f == 0 then if k = 0 then 0 else mulAdd power ln2High low
  else if k != 0 && Float.scaleB (-1.5) (-20) ≤ f && f < Float.scaleB 1 (-20) then
    let r := mulAdd (-2 / 3) f 1 * half
    mulAdd power ln2High (-((r - low) - f))
  else
    let s := f / (2 + f)
    let r := half + logSeries (s * s)
    if k = 0 then f - (half - s * r)
    else mulAdd power ln2High (-((half - (r * s + low)) - f))

/-- The logarithm of `1 + x`, which is written as `2 ^ k * (1 + f)` with `1 + f` between the square
    roots of one half and of two. Each step rounds once. -/
def logOnePlus (x : Float) : Float :=
  if x.isNaN || x < -1 then 0 / 0
  else if x == -1 then -1 / 0
  else if x.isInf || x.abs < Float.scaleB 1 (-54) then x
  else if x.abs < Float.scaleB 1 (-29) then mulAdd (-0.5) (x * x) x
  else if Float.ofBits 0xbfd2bec400000000 < x && x < Float.ofBits 0x3fda827a00000000 then
    logScaled 0 x 0
  else
    let u := if x < Float.scaleB 1 53 then 1 + x else x
    let (m, k) := u.frExp
    let lost := if 1 < k then 1 - (u - x) else x - (u - 1)
    let c := if x < Float.scaleB 1 53 then lost / u else 0
    if 2 * m < Float.ofBits 0x3ff6a09e00000000 then logScaled (k - 1) (2 * m - 1) c
    else logScaled k (m - 1) c

/-- The inverse hyperbolic tangent: half the logarithm of `(1 + x) / (1 - x)`. -/
def artanh (x : Float) : Float := 0.5 * logOnePlus (2 * x / (1 - x))

end RuleVerify.Decimal
