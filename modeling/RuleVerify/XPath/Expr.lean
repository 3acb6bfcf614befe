namespace RuleVerify.XPath

inductive Axis where
  | ancestor
  | ancestorOrSelf
  | attribute
  | child
  | descendant
  | descendantOrSelf
  | following
  | followingSibling
  | namespaces
  | parent
  | preceding
  | precedingSibling
  | itself
deriving DecidableEq

/-- What a step requires of a node. -/
inductive NodeTest where
  | anyNode
  | text
  | comment
  | instruction (target : Option String)
  /-- An element of any name, or an attribute or a prefix on its own axis. -/
  | anyName
  /-- One of that name, which is in no namespace. -/
  | name (localPart : String)
  /-- One in the namespace of a prefix. None are declared, so there is no answer for any name. -/
  | scoped

inductive Operator where
  | or
  | and
  | equal
  | unequal
  | less
  | atMost
  | greater
  | atLeast
  | plus
  | minus
  | times
  | divide
  | modulo
  | union
deriving DecidableEq

mutual

inductive Expr where
  | literal (text : String)
  | number (x : Float)
  | variable (name : String)
  | call (function : String) (arguments : List Expr)
  | negate (e : Expr)
  | binary (operator : Operator) (left right : Expr)
  /-- The root of the document. -/
  | root
  /-- The context node. -/
  | here
  | path (start : Expr) (steps : List Step)
  /-- The nodes of an expression that satisfy predicates. -/
  | filter (nodes : Expr) (predicates : List Expr)

inductive Step where
  | mk (axis : Axis) (test : NodeTest) (predicates : List Expr)

end

end RuleVerify.XPath
