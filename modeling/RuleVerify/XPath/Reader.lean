import RuleVerify.XPath.Token

namespace RuleVerify.XPath

open Text (ScanOf)
open Text.Scan

/-- Fails where the tokens are no expression. A form that is not there gives nothing, but what was
    taken off the front for it stays off: an axis without a node test and empty parentheses may
    stand before an expression and say nothing. -/
abbrev Reader := ScanOf Token

namespace Reader

variable {α : Type}

def nothing : Reader (Option α) := pure none

/-- What the next token stands for, if it fits. -/
def next (f : Token → Option α) : Reader (Option α) := optional? (read? f)

/-- Whether the next token is a given mark, which is then taken off. -/
def skips (is : Token → Bool) : Reader Bool := Option.isSome <$> optional? (satisfy is)

def require (is : Token → Bool) : Reader Unit := satisfy is *> pure ()

/-- Something that has to be there. -/
def must (part : Reader (Option α)) : Reader α := do
  match ← part with
  | some a => pure a
  | none => failure

/-- The first of two forms that is there. -/
def orElse (first second : Reader (Option α)) : Reader (Option α) := do
  match ← first with
  | some a => pure (some a)
  | none => second

def allWithin (part : Reader (Option α)) : Nat → Reader (List α)
  | 0 => pure []
  | rounds + 1 => do
    match ← part with
    | some a => return a :: (← allWithin part rounds)
    | none => pure []

/-- As many in a row as there are. Each takes a token off, so their number bounds them. -/
def all (part : Reader (Option α)) : Reader (List α) := fun ts => allWithin part ts.length ts

end Reader

open Reader

/-- An expression in brackets. -/
def predicate (expr : Reader (Option Expr)) : Reader (Option Expr) := do
  if ← skips (· matches .openBracket) then
    let e ← must expr
    require (· matches .closeBracket)
    pure (some e)
  else nothing

/-- A node test with an axis in front, or for children. -/
def step (expr : Reader (Option Expr)) : Reader (Option Step) := do
  let axis ← next fun
    | .axis a => some a
    | _ => none
  let test ← next fun
    | .nodeTest t => some t
    | _ => none
  match test with
  | some t => return some (.mk (axis.getD .child) t (← all (predicate expr)))
  | none => nothing

/-- A step behind a slash. -/
def nextStep (expr : Reader (Option Expr)) : Reader (Option Step) := do
  if ← skips (· matches .slash) then some <$> must (step expr) else nothing

def steps (expr : Reader (Option Expr)) : Reader (Option (List Step)) := do
  match ← step expr with
  | some first => return some (first :: (← all (nextStep expr)))
  | none => nothing

def relativePath (expr : Reader (Option Expr)) : Reader (Option Expr) := do
  return (← steps expr).map (.path .here)

/-- A path from the root. A slash may stand alone. -/
def absolutePath (expr : Reader (Option Expr)) : Reader (Option Expr) := do
  if ← skips (· matches .slash) then
    return some (((← steps expr).map (.path .root)).getD .root)
  else nothing

def parenthesized (expr : Reader (Option Expr)) : Reader (Option Expr) := do
  if ← skips (· matches .openParen) then
    let e ← expr
    require (· matches .closeParen)
    pure e
  else nothing

def nextArgument (expr : Reader (Option Expr)) : Reader (Option Expr) := do
  if ← skips (· matches .comma) then some <$> must expr else nothing

def arguments (expr : Reader (Option Expr)) : Reader (List Expr) := do
  require (· matches .openParen)
  let args ← match ← expr with
    | some first => (first :: ·) <$> all (nextArgument expr)
    | none => pure []
  require (· matches .closeParen)
  pure args

def call (expr : Reader (Option Expr)) : Reader (Option Expr) := do
  let function ← next fun
    | .function name => some name
    | _ => none
  match function with
  | some name => return some (.call name (← arguments expr))
  | none => nothing

def variableOf : Token → Option Expr
  | .variable name => some (.variable name)
  | _ => none

def constantOf : Token → Option Expr
  | .literal text => some (.literal text)
  | .number x => some (.number x)
  | _ => none

def primary (expr : Reader (Option Expr)) : Reader (Option Expr) :=
  orElse (next variableOf) <| orElse (parenthesized expr) <| orElse (next constantOf) (call expr)

/-- A primary expression with predicates, and perhaps a path that begins at it. -/
def filtered (expr : Reader (Option Expr)) : Reader (Option Expr) := do
  match ← primary expr with
  | none => nothing
  | some first =>
    let predicates ← all (predicate expr)
    let nodes := if predicates.isEmpty then first else .filter first predicates
    let steps ← all (nextStep expr)
    pure (some (if steps.isEmpty then nodes else .path nodes steps))

def operand (expr : Reader (Option Expr)) : Reader (Option Expr) :=
  orElse (relativePath expr) <| orElse (absolutePath expr) (filtered expr)

/-- Operands with operators of one level between them, which group to the left. -/
def level (operators : List Operator) (operand : Reader (Option Expr)) : Reader (Option Expr) := do
  match ← operand with
  | none => nothing
  | some first =>
    let rest ← all do
      let operator ← next fun
        | .operator o => if o ∈ operators then some o else none
        | _ => none
      match operator with
      | some o => return some (o, ← must operand)
      | none => nothing
    pure (some (rest.foldl (fun left (o, right) => .binary o left right) first))

/-- An operand with at most `bound` minus signs in front. -/
def signedWithin (operand : Reader (Option Expr)) : Nat → Reader (Option Expr)
  | 0 => failure
  | bound + 1 => orElse operand do
    if ← skips (· matches .operator .minus) then
      return some (.negate (← must (signedWithin operand bound)))
    else nothing

def signed (operand : Reader (Option Expr)) : Reader (Option Expr) := fun ts =>
  signedWithin operand (ts.length + 1) ts

/-- An expression with at most `depth` expressions around one another. -/
def exprWithin : Nat → Reader (Option Expr)
  | 0 => failure
  | depth + 1 =>
    level [.or] <| level [.and] <| level [.equal, .unequal] <|
      level [.less, .atMost, .greater, .atLeast] <| level [.plus, .minus] <|
      level [.times, .divide, .modulo] <| signed <| level [.union] <|
      operand (exprWithin depth)

def Expr.ofText? (text : String) : Option Expr := do
  let tokens ← Token.ofText? text
  let e ← run? (exprWithin (tokens.length + 1)) tokens
  e

end RuleVerify.XPath
