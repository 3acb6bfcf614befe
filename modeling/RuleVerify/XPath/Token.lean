import RuleVerify.XPath.Expr
import RuleVerify.Xml.Token

namespace RuleVerify.XPath

open Text (Scan)
open Text.Scan

/-- Where an operator may stand, a star multiplies and the names of operators are operators;
    everywhere else they are names of nodes. A comma is a place for an operator. -/
inductive Token where
  | slash
  | comma
  | openParen
  | closeParen
  | openBracket
  | closeBracket
  | operator (o : Operator)
  | literal (text : String)
  | number (x : Float)
  | axis (a : Axis)
  | nodeTest (t : NodeTest)
  | function (name : String)
  | variable (name : String)

namespace Token

/-- Whether an operator may follow the token. -/
def admitsOperator : Token → Bool
  | .slash | .openParen | .openBracket | .axis _ | .operator _ => false
  | _ => true

/-- A step to all nodes on an axis. -/
def step (a : Axis) : List Token := [.axis a, .nodeTest .anyNode]

/-- Marks and abbreviations and the tokens that they stand for, longer ones first. -/
def fixed : List (String × List Token) :=
  [("<=", [.operator .atMost]), (">=", [.operator .atLeast]), ("!=", [.operator .unequal]),
   ("//", .slash :: step .descendantOrSelf ++ [.slash]), ("..", step .parent), ("/", [.slash]),
   ("(", [.openParen]), (")", [.closeParen]), ("[", [.openBracket]), ("]", [.closeBracket]),
   ("@", [.axis .attribute]), ("+", [.operator .plus]), ("-", [.operator .minus]),
   ("|", [.operator .union]), ("=", [.operator .equal]), ("<", [.operator .less]),
   (">", [.operator .greater]), (",", [.comma])]

def namedOperators : List (String × Token) :=
  [("and", .operator .and), ("or", .operator .or), ("mod", .operator .modulo),
   ("div", .operator .divide), ("*", .operator .times)]

def axes : List (String × Axis) :=
  [("ancestor-or-self", .ancestorOrSelf), ("ancestor", .ancestor), ("attribute", .attribute),
   ("child", .child), ("descendant-or-self", .descendantOrSelf), ("descendant", .descendant),
   ("following-sibling", .followingSibling), ("following", .following),
   ("namespace", .namespaces), ("parent", .parent), ("preceding-sibling", .precedingSibling),
   ("preceding", .preceding), ("self", .itself)]

/-- The first entry of a table that can be read, and what it stands for. -/
def oneOf {α : Type} (table : List (String × α)) : Scan α :=
  table.foldr (fun entry other => (word entry.1 *> pure entry.2) <|> other) failure

def literalIn (quote : Char) : Scan String :=
  char quote *> (String.ofList <$> takeWhile (· ≠ quote)) <* char quote

def anyLiteral : Scan String := literalIn '"' <|> literalIn '\''

/-- Digits with an optional point among them, at least one digit in all. -/
def numeral : Scan Float := do
  let whole ← takeWhile Decimal.isDigit
  let fraction ← if ← accept "." then takeWhile Decimal.isDigit else pure []
  match Decimal.readFloat? (whole ++ '.' :: fraction) with
  | some x => pure x
  | none => failure

def nodeType : Scan NodeTest :=
  (word "node()" *> pure .anyNode) <|> (word "text()" *> pure .text) <|>
    (word "comment()" *> pure .comment) <|>
    (word "processing-instruction()" *> pure (.instruction none)) <|>
    (word "processing-instruction(" *> ((.instruction ∘ some) <$> anyLiteral) <* char ')')

/-- The name of a function, before its parenthesis. -/
def functionName : Scan String := do
  let name ← Xml.qname
  if ← looksAt "(" then pure (((name.scope.map (· ++ ":")).getD "") ++ name.localPart) else failure

/-- A name or a star, with or without a prefix. -/
def nameTest : Scan NodeTest :=
  (char '*' *> pure .anyName) <|> (Xml.simpleName *> word ":*" *> pure .scoped) <|> do
    let name ← Xml.qname
    pure (if name.scope.isSome then .scoped else .name name.localPart)

/-- A token that stands for itself. -/
def single : Scan Token :=
  (.axis <$> (oneOf axes <* word "::")) <|> (.nodeTest <$> nodeType) <|>
    (.function <$> functionName) <|> (.nodeTest <$> nameTest) <|>
    (char '$' *> ((fun n => .variable n.localPart) <$> Xml.qname))

def scan (operatorFits : Bool) : Scan (List Token) :=
  oneOf fixed <|> (List.singleton <$> ((.literal <$> anyLiteral) <|> (.number <$> numeral))) <|>
    (char '.' *> pure (step .itself)) <|>
    (if operatorFits then List.singleton <$> oneOf namedOperators else failure) <|>
    (List.singleton <$> single)

/-- All tokens of a text of at most `bound` characters. -/
def listWithin : Nat → Bool → Scan (List Token)
  | 0, _ => Xml.spaces *> finish *> pure []
  | bound + 1, operatorFits => do
    Xml.spaces
    if ← atEnd then pure []
    else
      let ts ← scan operatorFits
      return ts ++ (← listWithin bound ((ts.getLast?.map admitsOperator).getD false))

def ofText? (text : String) : Option (List Token) :=
  run? (listWithin text.length false) text.toList

end Token

end RuleVerify.XPath
