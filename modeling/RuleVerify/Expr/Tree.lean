import RuleVerify.Expr.Token

namespace RuleVerify.Expr

inductive Operator where
  /-- The whole expression, or what stands between two parentheses. -/
  | root
  | binary (operator : Binary)
  | neg
  | not
  | assign
  | update (operator : Binary)
  | tuple
  | chain
  | constant (value : Value)
  /-- The value of a variable. -/
  | read (name : String)
  /-- The name on the left of an assignment. -/
  | target (name : String)
  | function (name : String)

namespace Operator

def isRoot : Operator → Bool
  | root => true
  | _ => false

def isTuple : Operator → Bool
  | tuple => true
  | _ => false

def isChain : Operator → Bool
  | chain => true
  | _ => false

/-- Commas and semicolons separate any number of operands. -/
def isSequence (o : Operator) : Bool := o.isTuple || o.isChain

def precedence : Operator → Nat
  | root | constant _ | read _ | target _ => 200
  | function _ => 190
  | binary .exp => 120
  | neg | not => 110
  | binary .mul | binary .div | binary .mod => 100
  | binary .add | binary .sub => 95
  | binary .eq | binary .neq | binary .gt | binary .lt | binary .geq | binary .leq => 80
  | binary .and => 75
  | binary .or => 70
  | assign | update _ => 50
  | tuple => 40
  | chain => 0

def isRightToLeft : Operator → Bool
  | assign | function _ => true
  | _ => false

/-- The number of operands, where it is bounded. -/
def arity? : Operator → Option Nat
  | constant _ | read _ | target _ => some 0
  | root | neg | not | function _ => some 1
  | binary _ | assign | update _ => some 2
  | tuple | chain => none

def isLeaf (o : Operator) : Bool := o.arity? == some 0

/-- One operand, which stands on the right. -/
def isUnary (o : Operator) : Bool := o.arity? == some 1 && !o.isRoot

/-- A new operator `n` goes below `o` and not above it. -/
def holds (o n : Operator) : Bool :=
  o.precedence < n.precedence || n.isUnary ||
    (o.precedence == n.precedence && o.isRightToLeft && n.isRightToLeft)

end Operator

inductive Node where
  | mk (operator : Operator) (children : List Node)

namespace Node

def operator : Node → Operator
  | mk o _ => o

def children : Node → List Node
  | mk _ cs => cs

def emptyRoot : Node := mk .root []

def leaf (o : Operator) : Node := mk o []

/-- Adds a last operand. -/
def push (n child : Node) : Node := mk n.operator (n.children ++ [child])

def isFull (n : Node) : Bool := n.operator.arity? == some n.children.length

/-- The node `n` takes the place of the last operand `l` of `s`, which becomes its own operand.
    Parentheses take no operand on either side. -/
def rotate (s : Operator) (init : List Node) (l n : Node) : Except Fault Node :=
  if n.operator.isLeaf then throw .appendedToLeaf
  else if (s.isRoot && (!init.isEmpty || n.operator.isRoot)) ||
      (n.operator.isRoot && (!n.children.isEmpty || l.operator.isRoot)) then
    throw .misplacedParenthesis
  else pure (mk s (init ++ [n.push l]))

/-- Adds `n` at the right end of `s`. At the top every operator may go below. -/
def insert (s n : Node) (atTop : Bool) : Except Fault Node :=
  if atTop || s.operator.holds n.operator then
    if s.operator.isLeaf then throw .appendedToLeaf
    else if s.isFull then
      match s with
      | mk o cs =>
        match _hlast : cs.getLast? with
        | none => pure (mk o [n])
        | some l =>
          if l.operator.holds n.operator then do
            let l ← insert l n false
            pure (mk o (cs.dropLast ++ [l]))
          else rotate o cs.dropLast l n
    else pure (s.push n)
  else throw .precedenceViolation
termination_by sizeOf s
decreasing_by
  have hmem := List.sizeOf_lt_of_mem (List.mem_of_getLast? _hlast)
  simp only [Node.mk.sizeOf_spec]
  omega

end Node

/-- The roots under construction, innermost first: one for each open parenthesis, and one for each
    sequence inside it. -/
abbrev Roots := List Node

namespace Roots

/-- Ends the sequences of the innermost parenthesis, each becoming an operand of the root below
    it. What remains on top is the parenthesis itself. -/
def collapse (root : Node) : Roots → Except Fault Roots
  | [] =>
    if root.operator.isRoot then
      if 1 < root.children.length then throw .misplacedParenthesis else pure [root]
    else throw .unmatchedClose
  | below :: roots =>
    if root.operator.isRoot then
      if 1 < root.children.length then throw .misplacedParenthesis
      else pure (root :: below :: roots)
    else if root.operator.isSequence then collapse (below.push root) roots
    else pure (root :: below :: roots)

def collapseAll : Roots → Except Fault Roots
  | [] => throw .unmatchedClose
  | root :: roots => collapse root roots

/-- Takes the roots that bind closer than `separator` off the stack, each with the one before it as
    its last operand. The bottom of the stack has to remain. -/
def collapseTo (separator : Operator) (root : Node) : Roots → Except Fault (Node × Roots)
  | [] => throw .unmatchedClose
  | below :: roots =>
    if separator.precedence < below.operator.precedence then
      collapseTo separator (below.push root) roots
    else pure (root, below :: roots)

/-- Begins the next operand of a sequence, and the sequence itself if it is not open yet. -/
def addSequence (separator : Operator) (root : Node) (roots : Roots) : Except Fault Roots :=
  let o := root.operator
  if (o.isTuple && separator.isTuple) || (o.isChain && separator.isChain) then
    pure (root.push .emptyRoot :: roots)
  else if o.isRoot then
    pure (.mk separator [root, .emptyRoot] :: .emptyRoot :: roots)
  else if o.precedence < separator.precedence then
    match root.children.getLast? with
    | some last =>
      pure (.mk separator [last, .emptyRoot] :: .mk o root.children.dropLast :: roots)
    | none => throw .unmatchedClose
  else do
    let (root, roots) ← collapseTo separator root roots
    pure (.mk separator [root] :: roots)

/-- Adds a node that is no sequence to the operand under construction. -/
def addNode (n root : Node) (roots : Roots) : Except Fault Roots :=
  if root.operator.isSequence then
    match root.children.getLast? with
    | some last => do
      let last ← last.insert n true
      pure (.mk root.operator (root.children.dropLast ++ [last]) :: roots)
    | none => throw .unmatchedClose
  else do
    let root ← root.insert n true
    pure (root :: roots)

def add (n : Node) : Roots → Except Fault Roots
  | [] => throw .unmatchedClose
  | root :: roots =>
    if n.operator.isSequence then addSequence n.operator root roots else addNode n root roots

/-- Closes the innermost parenthesis and adds it as an operand. -/
def close (roots : Roots) : Except Fault Roots := do
  if roots.length ≤ 1 then throw .unmatchedClose
  match ← collapseAll roots with
  | [] => throw .unmatchedClose
  | root :: roots => add root roots

end Roots

/-- An identifier in front of `next`. -/
def identifierOperator (name : String) (next : Option Token) : Operator :=
  match next with
  | none => .read name
  | some token =>
    if token.isAssignment then .target name
    else if token.startsValue then .function name
    else .read name

/-- Adds one token. `afterValue` says whether a value ended directly before it, `next` is the token
    behind it. -/
def Roots.step (afterValue : Bool) (next : Option Token) (roots : Roots) :
    Token → Except Fault Roots
  | .minus => roots.add (.leaf (if afterValue then .binary .sub else .neg))
  | .binary o => roots.add (.leaf (.binary o))
  | .not => roots.add (.leaf .not)
  | .assign => roots.add (.leaf .assign)
  | .update o => roots.add (.leaf (.update o))
  | .openParen => pure (.emptyRoot :: roots)
  | .closeParen => roots.close
  | .comma => roots.add (.leaf .tuple)
  | .semicolon => roots.add (.leaf .chain)
  | .identifier name => roots.add (.leaf (identifierOperator name next))
  | .constant value => roots.add (.leaf (.constant value))

def Roots.steps (afterValue : Bool) (roots : Roots) : List Token → Except Fault Roots
  | [] => pure roots
  | token :: rest => do
    let roots ← roots.step afterValue rest.head? token
    steps token.endsValue roots rest

/-- The tree of an expression. A stack with several roots at the end has an open parenthesis. -/
def Node.ofTokens (ts : List Token) : Except Fault Node := do
  let roots ← Roots.steps false [.emptyRoot] ts
  match ← Roots.collapseAll roots with
  | [root] => pure root
  | [] => throw .unmatchedClose
  | _ => throw .unmatchedOpen

end RuleVerify.Expr
