import RuleVerify.Expr.Value

namespace RuleVerify.Expr

/-- What an operation wanted of an operand. -/
inductive Expectation where
  | kind (kind : Kind)
  | number
  | numberOrString
  | tupleOf (length : Nat)
  | tupleBetween (least most : Nat)
  | oneOf (kinds : List Kind)
deriving DecidableEq, Repr

def Expectation.text : Expectation → String
  | .kind k => "a Value::" ++ k.name
  | .number => "a Value::Float or Value::Int"
  | .numberOrString => "a Value::Number or a Value::String"
  | .tupleOf n => s!"a Value::Tuple of length {n}"
  | .tupleBetween least most => s!"a Value::Tuple of length {least} to {most}"
  | .oneOf kinds => "one of " ++ Kind.list kinds

/-- The integer operations that can leave the range. -/
inductive Arithmetic where
  | add
  | sub
  | mul
  | div
  | mod
deriving DecidableEq, Repr

def Arithmetic.verb : Arithmetic → String
  | .add => "adding"
  | .sub => "subtracting"
  | .mul => "multiplying"
  | .div => "dividing"
  | .mod => "modulating"

def Arithmetic.sign : Arithmetic → String
  | .add => "+"
  | .sub => "-"
  | .mul => "*"
  | .div => "/"
  | .mod => "%"

/-- Why a rule expression has no value. -/
inductive Fault where
  /-- A backslash in a string literal before a character that needs none, or at the end. -/
  | illegalEscape (escaped : Option Char)
  | unmatchedQuote
  | unmatchedComment
  /-- A lone `&` or `|`, and what follows it. -/
  | loneSign (sign : Char) (next : Option String)
  | unmatchedOpen
  | unmatchedClose
  | misplacedParenthesis
  | appendedToLeaf
  | precedenceViolation
  | operandCount (wanted actual : Nat)
  | expected (what : Expectation) (got : Value)
  | wrongCombination (operator : String) (kinds : List Kind)
  | arithmetic (operation : Arithmetic) (left right : Value)
  | negation (operand : Value)
  | assignment
  | unboundVariable (name : String)
  | unboundFunction (name : String)
  | outOfBounds
  /-- A library helper got another number of arguments. -/
  | argumentCount (helper : String) (wanted actual : Nat)
  /-- A library helper got a tuple where it needs text. -/
  | tupleHasNoText
  | noSize (got : Value)

namespace Fault

def message : Fault → String
  | .illegalEscape escaped =>
    "Illegal escape sequence: \\" ++ String.ofList (escaped.elim [] ([·]))
  | .unmatchedQuote => "Found an unmatched double quote '\"'"
  | .unmatchedComment => "Error: unmatched inline comment"
  | .loneSign sign none =>
    s!"Found a partial token '{sign}' that should be followed by another partial token."
  | .loneSign sign (some next) =>
    s!"Found a partial token '{sign}' that should not be followed by '{next}'."
  | .unmatchedOpen => "Found an unmatched opening parenthesis '('."
  | .unmatchedClose => "Found an unmatched closing parenthesis ')'."
  | .misplacedParenthesis =>
    "Found an opening parenthesis that is preceded by something that does not take any " ++
      "arguments on the right, or found a closing parenthesis that is succeeded by something " ++
      "that does not take any arguments on the left."
  | .appendedToLeaf => "Tried to append a node to a leaf node."
  | .precedenceViolation => "Tried to append a node to another node with higher precedence."
  | .operandCount wanted actual =>
    s!"An operator expected {wanted} arguments, but got {actual}."
  | .expected what got => "Expected " ++ what.text ++ ", but got " ++ got.describe ++ "."
  | .wrongCombination operator kinds =>
    s!"The operator {operator} was called with a wrong combination of types: " ++ Kind.list kinds
  | .arithmetic operation left right =>
    "Error " ++ operation.verb ++ " " ++ left.display ++ " " ++ operation.sign ++ " " ++
      right.display
  | .negation operand => "Error negating -" ++ operand.display
  | .assignment => "Cannot manipulate context"
  | .unboundVariable name =>
    "Variable identifier is not bound to anything by context: " ++ Text.quote name ++ "."
  | .unboundFunction name =>
    "Function identifier is not bound to anything by context: " ++ Text.quote name ++ "."
  | .outOfBounds => "Tried to access a tuple or string at an invalid index"
  | .argumentCount helper wanted actual =>
    s!"Error: {helper} expects {wanted} argument(s), got {actual}"
  | .tupleHasNoText => "Error: expected a string, got a tuple"
  | .noSize got => "Error: _.size expects a string or tuple, got " ++ got.describe

end Fault

end RuleVerify.Expr
