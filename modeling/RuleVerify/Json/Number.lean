import RuleVerify.Decimal.Read
import RuleVerify.Json.Value

namespace RuleVerify.Json

/-- The leading digits that fit in 64 bits, as a number, and the other digits. -/
def leadingDigits (n : Nat) : List Char → Nat × List Char
  | [] => (n, [])
  | c :: cs =>
    let next := 10 * n + (c.toNat - '0'.toNat)
    if next < Nat.pow 2 64 then leadingDigits next cs else (n, c :: cs)

/-- Scales a number by a power of ten, in steps of 308 places, each of which rounds. -/
def scaleFloat? : Nat → Float → Int → Option Float
  | 0, x, _ => some x
  | steps + 1, x, exponent =>
    if exponent.natAbs ≤ 308 then
      let power := Float.ofScientific (Nat.pow 10 exponent.natAbs) false 0
      let y := if 0 ≤ exponent then x * power else x / power
      if y.isInf then none else some y
    else if x == 0 then some x
    else if 0 ≤ exponent then none
    else scaleFloat? steps (x / Float.ofScientific (Nat.pow 10 308) false 0) (exponent + 308)

/-- The number with the given digits before and behind the point. Digits that no longer fit in 64
    bits lose their value, and those before the point keep their place. A number that is too large
    is an error. -/
def float? (negative : Bool) (whole fraction : List Char) (exponent : Int) : Option Value :=
  let (n, dropped) := leadingDigits 0 whole
  let (n, unread) := leadingDigits n fraction
  let places := Int.ofNat dropped.length - Int.ofNat (fraction.length - unread.length)
  (scaleFloat? (exponent.natAbs / 308 + 2) (Float.ofNat n) (places + exponent)).map fun x =>
    .float (if negative then -x else x)

/-- Exponents that the steps need not tell apart. -/
def clampExponent (n : Int) : Int := max (-20000) (min n 20000)

/-- Digits that may begin with zero only if that is all. -/
def isWhole (digits : List Char) : Bool :=
  match digits with
  | [] => false
  | '0' :: rest => rest.isEmpty
  | _ => digits.all Decimal.isDigit

/-- A number by its digits. Without fraction and exponent it is an integer. -/
structure Numeral where
  negative : Bool
  whole : List Char
  /-- The digits behind the point and the exponent. -/
  scaling : Option (List Char × Int)

/-- A sign, digits without a leading zero, and perhaps a fraction and an exponent. -/
def Numeral.ofChars? (cs : List Char) : Option Numeral :=
  let negative := cs.head? == some '-'
  let cs := if negative then cs.drop 1 else cs
  let whole := cs.takeWhile Decimal.isDigit
  let rest := cs.dropWhile Decimal.isDigit
  if !isWhole whole then none
  else
    match rest with
    | [] => some ⟨negative, whole, none⟩
    | '.' :: tail =>
      let fraction := tail.takeWhile Decimal.isDigit
      if fraction.isEmpty then none
      else
        (Decimal.readExponent? (tail.dropWhile Decimal.isDigit)).map fun e =>
          ⟨negative, whole, some (fraction, e)⟩
    | tail => (Decimal.readExponent? tail).map fun e => ⟨negative, whole, some ([], e)⟩

/-- Integers that fit in 64 bits are exact. A number that is too large has no value. -/
def Numeral.value? (n : Numeral) : Option Value :=
  match n.scaling with
  | some (fraction, e) => float? n.negative n.whole fraction (clampExponent e)
  | none =>
    let m := Decimal.natOfDigits n.whole
    if n.negative then
      if m = 0 then some (.float (-0))
      else if m ≤ Nat.pow 2 63 then some (.integer (-m))
      else float? n.negative n.whole [] 0
    else if m < Nat.pow 2 64 then some (.integer m)
    else float? n.negative n.whole [] 0

/-- The value of a number that is the whole text. -/
def readNumber? (cs : List Char) : Option Value := Numeral.ofChars? cs >>= Numeral.value?

end RuleVerify.Json
