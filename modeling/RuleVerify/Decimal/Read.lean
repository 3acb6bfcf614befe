import RuleVerify.Decimal.Shortest

namespace RuleVerify.Decimal

def isDigit (c : Char) : Bool := '0' ≤ c && c ≤ '9'

/-- The value of a run of decimal digits; the empty run is zero. -/
def natOfDigits (cs : List Char) : Nat :=
  cs.foldl (fun n c => 10 * n + (c.toNat - '0'.toNat)) 0

/-- The binary64 number nearest to `± digits * 10 ^ exponent`. Magnitudes far outside the range
    are settled by their length, so that no huge power is computed. -/
def toFloat (negative : Bool) (d : Digits) : Float :=
  let length := Int.ofNat (Nat.toDigits 10 d.digits).length + d.exponent
  let magnitude : Float :=
    if d.digits = 0 then 0
    else if 400 < length then 1 / 0
    else if length < -400 then 0
    else Float.ofScientific d.digits (d.exponent < 0) d.exponent.natAbs
  if negative then -magnitude else magnitude

/-- A sign, if there is one, and the rest. -/
def takeSign : List Char → Bool × List Char
  | '-' :: cs => (true, cs)
  | '+' :: cs => (false, cs)
  | cs => (false, cs)

/-- The exponent part: nothing, or `e` with an optional sign and at least one digit. -/
def readExponent? : List Char → Option Int
  | [] => some 0
  | c :: cs =>
    if c = 'e' || c = 'E' then
      let (negative, digits) := takeSign cs
      if digits.isEmpty || !digits.all isDigit then none
      else
        let n := Int.ofNat (natOfDigits digits)
        some (if negative then -n else n)
    else none

/-- Digits with an optional point among them, at least one digit in all, and an exponent part. -/
def readDigits? (cs : List Char) : Option Digits :=
  let whole := cs.takeWhile isDigit
  let rest := cs.dropWhile isDigit
  let fraction := match rest with
    | '.' :: tail => tail.takeWhile isDigit
    | _ => []
  let rest := match rest with
    | '.' :: tail => tail.dropWhile isDigit
    | _ => rest
  if whole.isEmpty && fraction.isEmpty then none
  else (readExponent? rest).map fun e =>
    ⟨natOfDigits (whole ++ fraction), e - Int.ofNat fraction.length⟩

/-- The words for infinity and NaN, in any case. -/
def readWord? (cs : List Char) : Option Float :=
  let lower := cs.map Char.toLower
  if lower = ['i', 'n', 'f'] || lower = ['i', 'n', 'f', 'i', 'n', 'i', 't', 'y'] then some (1 / 0)
  else if lower = ['n', 'a', 'n'] then some (0 / 0)
  else none

/-- A decimal number with an optional sign: `1`, `.5`, `5.`, `1e3`, `-inf`, `nan`. -/
def readFloat? (cs : List Char) : Option Float :=
  let (negative, rest) := takeSign cs
  match readDigits? rest with
  | some d => some (toFloat negative d)
  | none => (readWord? rest).map fun x => if negative then -x else x

end RuleVerify.Decimal
