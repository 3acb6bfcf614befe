import RuleVerify.Decimal.Shortest

namespace RuleVerify.Decimal

/-- The decisions of a number format. `positional` answers for the power of ten of the first
    digit, `wholeMark` follows a whole number in positional notation. -/
structure Layout where
  tie : Tie
  positional : Int → Bool
  wholeMark : String
  plusSign : Bool
  infinity : String
  notANumber : String

/-- Never an exponent, and no point behind a whole number. -/
def Layout.plain : Layout where
  tie := .up
  positional _ := true
  wholeMark := ""
  plusSign := false
  infinity := "inf"
  notANumber := "NaN"

/-- Digits with a point after the first `before` of them, padded with zeros. -/
def placePoint (wholeMark : String) (digits : List Char) (before : Int) : List Char :=
  if before ≤ 0 then
    ['0', '.'] ++ List.replicate (-before).toNat '0' ++ digits
  else if digits.length ≤ before.toNat then
    digits ++ List.replicate (before.toNat - digits.length) '0' ++ wholeMark.toList
  else digits.take before.toNat ++ '.' :: digits.drop before.toNat

/-- One digit, a point, the others, and the power of ten of the first. -/
def withExponent (plusSign : Bool) (digits : List Char) (power : Int) : List Char :=
  let tail := digits.drop 1
  let sign := if power < 0 then ['-'] else if plusSign then ['+'] else []
  digits.take 1 ++ (if tail.isEmpty then [] else '.' :: tail) ++
    'e' :: (sign ++ Nat.toDigits 10 power.natAbs)

def Layout.writeDigits (layout : Layout) (d : Digits) : List Char :=
  let digits := Nat.toDigits 10 d.digits
  let before := Int.ofNat digits.length + d.exponent
  if layout.positional (before - 1) then placePoint layout.wholeMark digits before
  else withExponent layout.plusSign digits (before - 1)

/-- The text of a binary64 number. The sign of a zero is written, that of a NaN is not. -/
def Layout.write (layout : Layout) (x : Float) : String :=
  let magnitude := x.toBits.toNat % Nat.pow 2 63
  let sign := if isNegative x then "-" else ""
  if 0x7FF * Nat.pow 2 52 < magnitude then layout.notANumber
  else if magnitude = 0x7FF * Nat.pow 2 52 then sign ++ layout.infinity
  else sign ++
    String.ofList (layout.writeDigits ((Binary.ofBits magnitude).shortest layout.tie))

end RuleVerify.Decimal
