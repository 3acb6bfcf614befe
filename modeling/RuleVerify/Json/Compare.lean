import RuleVerify.Json.Value

namespace RuleVerify.Json

/-- The exact value of a finite binary64 number, as a quotient. -/
def ratioOfFloat (x : Float) : Int × Nat :=
  let b := Decimal.Binary.ofFloat x
  let r := Decimal.Ratio.ofPowers b.mantissa b.exponent 0
  (if Decimal.isNegative x then -Int.ofNat r.num else Int.ofNat r.num, r.den)

namespace Value

/-- The exact value of a number. -/
def ratio? : Value → Option (Int × Nat)
  | .integer n => some (n, 1)
  | .float x => some (ratioOfFloat x)
  | _ => none

/-- The nearest binary64 number. -/
def float? : Value → Option Float
  | .integer n => some (Float.ofInt n)
  | .float x => some x
  | _ => none

/-- One number is less than the other; other values never are. -/
def numberLess (a b : Value) : Bool :=
  match a.ratio?, b.ratio? with
  | some (n, d), some (m, e) => n * e < m * d
  | _, _ => false

def numberSame (a b : Value) : Bool :=
  match a.ratio?, b.ratio? with
  | some (n, d), some (m, e) => n * e = m * d
  | _, _ => false

/-- Two integers or two numbers in binary64 that are equal. -/
def numberIdentical : Value → Value → Bool
  | .integer a, .integer b => a == b
  | .float a, .float b => a == b
  | _, _ => false

mutual

/-- Equal values, given what makes numbers equal. Members have to stand in the same order. -/
def sameBy (number : Value → Value → Bool) : Value → Value → Bool
  | .null, .null => true
  | .boolean a, .boolean b => a == b
  | .string a, .string b => a == b
  | .array a, .array b => sameItems number a b
  | .object a, .object b => sameMembers number a b
  | a, b => number a b

def sameItems (number : Value → Value → Bool) : List Value → List Value → Bool
  | [], [] => true
  | a :: as, b :: bs => sameBy number a b && sameItems number as bs
  | _, _ => false

def sameMembers (number : Value → Value → Bool) :
    List (String × Value) → List (String × Value) → Bool
  | [], [] => true
  | (m, a) :: as, (n, b) :: bs => m == n && sameBy number a b && sameMembers number as bs
  | _, _ => false

end

/-- Equal values, where an integer may equal a number in binary64. -/
def same : Value → Value → Bool := sameBy numberSame

/-- Equal values of the same make throughout. -/
def identical : Value → Value → Bool := sameBy numberIdentical

end Value

end RuleVerify.Json
