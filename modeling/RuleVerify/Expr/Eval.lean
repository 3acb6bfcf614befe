import RuleVerify.Decimal.Nearest
import RuleVerify.Expr.Builtin
import RuleVerify.Expr.Tree

namespace RuleVerify.Expr

def Binary.name : Binary → String
  | .add => "Add"
  | .sub => "Sub"
  | .mul => "Mul"
  | .div => "Div"
  | .mod => "Mod"
  | .exp => "Exp"
  | .eq => "Eq"
  | .neq => "Neq"
  | .gt => "Gt"
  | .lt => "Lt"
  | .geq => "Geq"
  | .leq => "Leq"
  | .and => "And"
  | .or => "Or"

/-- The value is a number or a string, as addition and the comparisons want. -/
def checkNumberOrString : Value → Except Fault Unit
  | .string _ | .float _ | .int _ => pure ()
  | v => throw (.expected .numberOrString v)

/-- Two integers give an integer or a fault, other numbers a float. -/
def arithmetic (operation : Arithmetic) (onInts : Int → Int → Option Int)
    (onFloats : Float → Float → Float) (a b : Value) : Except Fault Value := do
  let x ← a.asNumber
  let y ← b.asNumber
  match a, b with
  | .int m, .int n =>
    match (onInts m.toInt n.toInt).bind int64? with
    | some k => pure (.int k)
    | none => throw (.arithmetic operation a b)
  | _, _ => pure (.float (onFloats x y))

/-- Division toward zero, undefined for the divisor zero. -/
def truncatedDiv? (m n : Int) : Option Int := if n = 0 then none else some (m.tdiv n)

/-- The remainder of that division. It is undefined wherever the quotient leaves the range. -/
def truncatedMod? (m n : Int) : Option Int :=
  (truncatedDiv? m n).bind fun q => (int64? q).map fun _ => m - q * n

def add (a b : Value) : Except Fault Value := do
  checkNumberOrString a
  checkNumberOrString b
  match a, b with
  | .string s, .string t => pure (.string (s ++ t))
  | .string _, _ | _, .string _ => throw (.wrongCombination Binary.add.name [a.kind, b.kind])
  | _, _ => arithmetic .add (fun m n => some (m + n)) (· + ·) a b

/-- Strings are ordered by code points, integers and other numbers by size. -/
def compare (onStrings : String → String → Bool) (onInts : Int64 → Int64 → Bool)
    (onFloats : Float → Float → Bool) (a b : Value) : Except Fault Value := do
  checkNumberOrString a
  checkNumberOrString b
  match a, b with
  | .string s, .string t => pure (.boolean (onStrings s t))
  | .int m, .int n => pure (.boolean (onInts m n))
  | _, _ => do
    let x ← a.asNumber
    let y ← b.asNumber
    pure (.boolean (onFloats x y))

def logical (f : Bool → Bool → Bool) (a b : Value) : Except Fault Value := do
  let p ← a.asBoolean
  let q ← b.asBoolean
  pure (.boolean (f p q))

def power (a b : Value) : Except Fault Value := do
  let x ← a.asNumber
  let y ← b.asNumber
  pure (.float (x.pow y))

def Binary.apply : Binary → Value → Value → Except Fault Value
  | .add => Expr.add
  | .sub => arithmetic .sub (fun m n => some (m - n)) (· - ·)
  | .mul => arithmetic .mul (fun m n => some (m * n)) (· * ·)
  | .div => arithmetic .div truncatedDiv? (· / ·)
  | .mod => arithmetic .mod truncatedMod? Decimal.remainder
  | .exp => power
  | .eq => fun a b => pure (.boolean (a == b))
  | .neq => fun a b => pure (.boolean (a != b))
  | .gt => compare (· > ·) (· > ·) (· > ·)
  | .lt => compare (· < ·) (· < ·) (· < ·)
  | .geq => compare (· ≥ ·) (· ≥ ·) (· ≥ ·)
  | .leq => compare (· ≤ ·) (· ≤ ·) (· ≤ ·)
  | .and => logical (· && ·)
  | .or => logical (· || ·)

def negate : Value → Except Fault Value
  | .float x => pure (.float (-x))
  | .int n =>
    match int64? (-n.toInt) with
    | some k => pure (.int k)
    | none => throw (.negation (.int n))
  | v => throw (.expected .number v)

/-- The functions that expressions can call besides the built-in ones, by name. They hide built-in
    functions of the same name. -/
abbrev Vocabulary := String → Option Function

def call (vocabulary : Vocabulary) (name : String) (argument : Value) : Except Fault Value :=
  match vocabulary name with
  | some f => f argument
  | none =>
    match Builtin.table.lookup name with
    | some f => f argument
    | none => throw (.unboundFunction name)

/-- The value of an operator on its operands, which are evaluated first, all of them and from the
    left. -/
def Operator.apply (vocabulary : Vocabulary) (o : Operator) (operands : List Value) :
    Except Fault Value :=
  match o, operands with
  | .root, operands => pure (operands.head?.getD .empty)
  | .tuple, operands => pure (.tuple operands)
  | .chain, operands =>
    match operands.getLast? with
    | some v => pure v
    | none => throw (.operandCount 1 0)
  | .assign, _ | .update _, _ => throw .assignment
  | .binary o, [a, b] => o.apply a b
  | .binary _, operands => throw (.operandCount 2 operands.length)
  | .neg, [a] => negate a
  | .not, [a] => do
    let b ← a.asBoolean
    pure (.boolean !b)
  | .function name, [a] => call vocabulary name a
  | .neg, operands | .not, operands | .function _, operands =>
    throw (.operandCount 1 operands.length)
  | .constant v, [] => pure v
  | .target name, [] => pure (.string name)
  | .read name, [] => throw (.unboundVariable name)
  | .constant _, operands | .target _, operands | .read _, operands =>
    throw (.operandCount 0 operands.length)

mutual

def Node.eval (vocabulary : Vocabulary) : Node → Except Fault Value
  | .mk o children => do
    let operands ← Node.evalAll vocabulary children
    o.apply vocabulary operands

def Node.evalAll (vocabulary : Vocabulary) : List Node → Except Fault (List Value)
  | [] => pure []
  | n :: ns => do
    let v ← Node.eval vocabulary n
    let vs ← Node.evalAll vocabulary ns
    pure (v :: vs)

end

/-- The truth value of an expression. Any other value is a fault. -/
def evalBoolean (vocabulary : Vocabulary) (cs : List Char) : Except Fault Bool := do
  let ts ← tokens cs
  let tree ← Node.ofTokens ts
  let v ← tree.eval vocabulary
  v.asBoolean

end RuleVerify.Expr
