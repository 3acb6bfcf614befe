namespace RuleVerify.Decimal

/-- The number `mantissa * 2 ^ exponent`. Below a power of two the gap is half the gap above. -/
structure Binary where
  mantissa : Nat
  exponent : Int
  narrowBelow : Bool

/-- The number `digits * 10 ^ exponent`. -/
structure Digits where
  digits : Nat
  exponent : Int
deriving DecidableEq, Repr

/-- Which of two equally near points is taken. -/
inductive Tie where
  | up
  | toEven

/-- A non-negative number as a quotient of naturals. -/
structure Ratio where
  num : Nat
  den : Nat

/-- The number `n * 2 ^ two * 10 ^ ten`. -/
def Ratio.ofPowers (n : Nat) (two ten : Int) : Ratio where
  num := n * (Nat.pow 2 two.toNat * Nat.pow 10 ten.toNat)
  den := Nat.pow 2 (-two).toNat * Nat.pow 10 (-ten).toNat

/-- The finite magnitude that the bits of a binary64 number hold. -/
def Binary.ofBits (bits : Nat) : Binary :=
  let fraction := bits % Nat.pow 2 52
  let power := bits / Nat.pow 2 52 % Nat.pow 2 11
  if power = 0 then ⟨fraction, -1074, false⟩
  else ⟨fraction + Nat.pow 2 52, Int.ofNat power - 1075, fraction = 0 && 1 < power⟩

/-- The magnitude of a finite binary64 number. -/
def Binary.ofFloat (x : Float) : Binary := ofBits (x.toBits.toNat % Nat.pow 2 63)

/-- The sign bit is set. -/
def isNegative (x : Float) : Bool := Nat.pow 2 63 ≤ x.toBits.toNat

/-- The point `n * 10 ^ scale` rounds to the number. An end of the interval does exactly when the
    mantissa is even. -/
def Binary.readsBack (b : Binary) (n : Nat) (scale : Int) : Bool :=
  let below := if b.narrowBelow then 1 else 2
  let low := Ratio.ofPowers (4 * b.mantissa - below) (b.exponent - 2) (-scale)
  let high := Ratio.ofPowers (4 * b.mantissa + 2) (b.exponent - 2) (-scale)
  if b.mantissa % 2 = 0 then low.num ≤ n * low.den && n * high.den ≤ high.num
  else low.num < n * low.den && n * high.den < high.num

/-- The least `k` with the number below `10 ^ k`. The binary length leaves five candidates. -/
def Binary.scale (b : Binary) : Int :=
  let estimate := (Int.ofNat b.mantissa.log2 + b.exponent) * 30103 / 100000
  let candidates := [estimate - 1, estimate, estimate + 1, estimate + 2]
  let below (k : Int) : Bool :=
    let r := Ratio.ofPowers b.mantissa b.exponent (-k)
    r.num < r.den
  (candidates.find? below).getD (estimate + 3)

/-- The nearer of the two neighbours on the grid `10 ^ scale` that read back. -/
def Binary.onGrid? (b : Binary) (tie : Tie) (scale : Int) : Option Nat :=
  let r := Ratio.ofPowers b.mantissa b.exponent (-scale)
  let floor := r.num / r.den
  match b.readsBack floor scale, b.readsBack (floor + 1) scale with
  | false, false => none
  | true, false => some floor
  | false, true => some (floor + 1)
  | true, true =>
    let twice := 2 * r.num
    let middle := (2 * floor + 1) * r.den
    if twice < middle then some floor
    else if middle < twice then some (floor + 1)
    else match tie with
      | .up => some (floor + 1)
      | .toEven => some (if floor % 2 = 0 then floor else floor + 1)

/-- Moves trailing zeros into the exponent. -/
def Digits.strip (d : Digits) : Digits :=
  let zeros := ((Nat.toDigits 10 d.digits).reverse.takeWhile (· = '0')).length
  if d.digits = 0 then ⟨0, 0⟩ else ⟨d.digits / Nat.pow 10 zeros, d.exponent + zeros⟩

/-- The digits on the coarsest grid with a hit. Seventeen digits always suffice; the exact value
    stands in for the case that no grid had one. -/
def Binary.shortest (b : Binary) (tie : Tie) : Digits :=
  if b.mantissa = 0 then ⟨0, 0⟩
  else
    let hit (n : Nat) : Option Digits :=
      let scale := b.scale - Int.ofNat n
      (b.onGrid? tie scale).map fun d => ⟨d, scale⟩
    match (List.range' 1 17).findSome? hit with
    | some d => d.strip
    | none =>
      let r := Ratio.ofPowers b.mantissa b.exponent 0
      (⟨r.num * Nat.pow 5 (-b.exponent).toNat, -(Int.ofNat (-b.exponent).toNat)⟩ : Digits).strip

end RuleVerify.Decimal
