import RuleVerify.Decimal.Logarithm
import RuleVerify.Decimal.Root
import RuleVerify.Expr.Fault
import RuleVerify.Text.Blank
import RuleVerify.Text.CaseMap

namespace RuleVerify.Expr

/-- A function gets one value. Several arguments come as a tuple, none as the empty value. -/
abbrev Function := Value → Except Fault Value

namespace Value

def asNumber : Value → Except Fault Float
  | .float x => pure x
  | .int n => pure n.toFloat
  | v => throw (.expected .number v)

def asInt : Value → Except Fault Int64
  | .int n => pure n
  | v => throw (.expected (.kind .int) v)

def asString : Value → Except Fault String
  | .string s => pure s
  | v => throw (.expected (.kind .string) v)

def asBoolean : Value → Except Fault Bool
  | .boolean b => pure b
  | v => throw (.expected (.kind .boolean) v)

def asTuple : Value → Except Fault (List Value)
  | .tuple items => pure items
  | v => throw (.expected (.kind .tuple) v)

def asPair (v : Value) : Except Fault (Value × Value) := do
  match ← v.asTuple with
  | [a, b] => pure (a, b)
  | _ => throw (.expected (.tupleOf 2) v)

end Value

namespace Builtin

def ofFloat (f : Float → Float) : Function := fun v => do
  let x ← v.asNumber
  pure (.float (f x))

def ofFloats (f : Float → Float → Float) : Function := fun v => do
  let (a, b) ← v.asPair
  let x ← a.asNumber
  let y ← b.asNumber
  pure (.float (f x y))

def test (p : Float → Bool) : Function := fun v => do
  let x ← v.asNumber
  pure (.boolean (p x))

def ofInts (f : Int64 → Int64 → Int64) : Function := fun v => do
  let (a, b) ← v.asPair
  let m ← a.asInt
  let n ← b.asInt
  pure (.int (f m n))

def ofText (f : List Char → List Char) : Function := fun v => do
  let s ← v.asString
  pure (.string (String.ofList (f s.toList)))

/-- The logarithm to a given base. -/
def log (x base : Float) : Float := x.log / base.log

/-- Finite, not zero, and with a full mantissa. -/
def isNormal (x : Float) : Bool :=
  let power := x.toBits.toNat / Nat.pow 2 52 % Nat.pow 2 11
  0 < power && power < Nat.pow 2 11 - 1

def abs : Function
  | .float x => pure (.float x.abs)
  | .int n => pure (.int (if n < 0 then -n else n))
  | v => throw (.expected .number v)

def typeOf : Function := fun v =>
  pure (.string (String.ofList (Text.toLowerAscii v.kind.name.toList)))

/-- The extremes so far of the integers and of the floats of a tuple. A NaN is passed over. -/
def extremes (better : Float → Float → Bool) (betterInt : Int64 → Int64 → Bool) :
    Int64 → Float → List Value → Except Fault (Int64 × Float)
  | m, x, [] => pure (m, x)
  | m, x, .int n :: items =>
    extremes better betterInt (if betterInt n m then n else m) x items
  | m, x, .float y :: items => extremes better betterInt m (if better y x then y else x) items
  | _, _, v :: _ => throw (.expected .number v)

/-- An integer is the extreme only when it beats all floats. -/
def extreme (better : Float → Float → Bool) (betterInt : Int64 → Int64 → Bool) (worst : Int64)
    (worstFloat : Float) : Function := fun v => do
  let (n, x) ← extremes better betterInt worst worstFloat (← v.asTuple)
  pure (if better n.toFloat x then .int n else .float x)

def min : Function := extreme (· < ·) (· < ·) Int64.maxValue (1 / 0)

def max : Function := extreme (· > ·) (· > ·) Int64.minValue (-1 / 0)

def ifThenElse : Function := fun v => do
  match ← v.asTuple with
  | [condition, yes, no] => do
    let b ← condition.asBoolean
    pure (if b then yes else no)
  | _ => throw (.expected (.tupleOf 3) v)

/-- The kinds that can be looked for in a tuple. -/
def scalarKinds : List Kind := [.string, .int, .float, .boolean]

def asScalar (v : Value) : Except Fault Value :=
  if v.kind ∈ scalarKinds then pure v else throw (.expected (.oneOf scalarKinds) v)

def contains : Function := fun v => do
  let (a, b) ← v.asPair
  let items ← a.asTuple
  let b ← asScalar b
  pure (.boolean (items.contains b))

def containsAny : Function := fun v => do
  let (a, b) ← v.asPair
  let items ← a.asTuple
  let sought ← b.asTuple
  let sought ← sought.mapM asScalar
  pure (.boolean (sought.any items.contains))

/-- The number of bytes of a text, or of items. -/
def len : Function
  | .string s => pure (.int (Int64.ofNat s.utf8ByteSize))
  | .tuple items => pure (.int (Int64.ofNat items.length))
  | v => throw (.expected (.oneOf [.string, .tuple]) v)

def textOf : Function
  | .string s => pure (.string s)
  | v => pure (.string v.display)

/-- The text without its first `n` bytes, where they end with a character. -/
def dropBytes? : Nat → List Char → Option (List Char)
  | 0, cs => some cs
  | _ + 1, [] => none
  | n + 1, c :: cs => if c.utf8Size ≤ n + 1 then dropBytes? (n + 1 - c.utf8Size) cs else none

def asOffset (v : Value) : Except Fault Nat := do
  let n ← v.asInt
  if n < 0 then throw .outOfBounds else pure n.toInt.toNat

def slice (s : String) (first last : Nat) : Except Fault Value :=
  if last < first then throw .outOfBounds
  else
    match dropBytes? first s.toList, dropBytes? last s.toList with
    | some tail, some rest => pure (.string (String.ofList (tail.take (tail.length - rest.length))))
    | _, _ => throw .outOfBounds

/-- The part of a text between two offsets in bytes, or from one to the end. -/
def substring : Function := fun v => do
  match ← v.asTuple with
  | [text, first] => do
    let s ← text.asString
    slice s (← asOffset first) s.utf8ByteSize
  | [text, first, last] => do
    let s ← text.asString
    let first ← asOffset first
    slice s first (← asOffset last)
  | _ => throw (.expected (.tupleBetween 2 3) v)

def bitNot : Function := fun v => do
  let n ← v.asInt
  pure (.int (~~~n))

def table : List (String × Function) :=
  [("math::ln", ofFloat Float.log), ("math::log", ofFloats log),
   ("math::log2", ofFloat Float.log2), ("math::log10", ofFloat Float.log10),
   ("math::exp", ofFloat Float.exp), ("math::exp2", ofFloat Float.exp2),
   ("math::pow", ofFloats Float.pow),
   ("math::cos", ofFloat Float.cos), ("math::acos", ofFloat Float.acos),
   ("math::cosh", ofFloat Float.cosh), ("math::acosh", ofFloat Float.acosh),
   ("math::sin", ofFloat Float.sin), ("math::asin", ofFloat Float.asin),
   ("math::sinh", ofFloat Float.sinh), ("math::asinh", ofFloat Float.asinh),
   ("math::tan", ofFloat Float.tan), ("math::atan", ofFloat Float.atan),
   ("math::tanh", ofFloat Float.tanh), ("math::atanh", ofFloat Decimal.artanh),
   ("math::atan2", ofFloats Float.atan2),
   ("math::sqrt", ofFloat Float.sqrt), ("math::cbrt", ofFloat Decimal.cubeRoot),
   ("math::hypot", ofFloats Decimal.hypotenuse),
   ("floor", ofFloat Float.floor), ("round", ofFloat Float.round), ("ceil", ofFloat Float.ceil),
   ("math::is_nan", test Float.isNaN), ("math::is_finite", test Float.isFinite),
   ("math::is_infinite", test Float.isInf), ("math::is_normal", test isNormal),
   ("math::abs", abs), ("typeof", typeOf), ("min", min), ("max", max), ("if", ifThenElse),
   ("contains", contains), ("contains_any", containsAny), ("len", len),
   ("str::to_lowercase", ofText Text.toLower), ("str::to_uppercase", ofText Text.toUpper),
   ("str::trim", ofText Text.trim), ("str::from", textOf), ("str::substring", substring),
   ("bitand", ofInts (· &&& ·)), ("bitor", ofInts (· ||| ·)), ("bitxor", ofInts (· ^^^ ·)),
   ("bitnot", bitNot), ("shl", ofInts (· <<< ·)), ("shr", ofInts (· >>> ·))]

end Builtin

end RuleVerify.Expr
