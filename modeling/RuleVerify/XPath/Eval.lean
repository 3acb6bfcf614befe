import RuleVerify.Decimal.Nearest
import RuleVerify.Verdict
import RuleVerify.XPath.Function
import RuleVerify.XPath.Reader

namespace RuleVerify.XPath

open Xml (Document)

/-- The nodes on an axis, from the context node outwards. -/
def Axis.nodes (d : Document) (n : Nat) : Axis → List Nat
  | .itself => [n]
  | .child => d.children n
  | .attribute => d.attributes n
  | .namespaces => d.spaces n
  | .parent => (d.parent? n).toList
  | .ancestor => d.ancestors n
  | .ancestorOrSelf => n :: d.ancestors n
  | .descendant => d.descendants n
  | .descendantOrSelf => n :: d.descendants n
  | .followingSibling => (d.siblings n).filter (n < ·)
  | .precedingSibling => ((d.siblings n).filter (· < n)).reverse
  | .following => (n :: d.ancestors n).flatMap fun a =>
    ((d.siblings a).filter (a < ·)).flatMap fun s => s :: d.descendants s
  | .preceding => (n :: d.ancestors n).flatMap fun a =>
    (((d.siblings a).filter (· < a)).flatMap fun s => s :: d.descendants s).reverse

/-- Names are those of elements, except on the axes of attributes and of prefixes. -/
def Axis.name? (d : Document) (axis : Axis) (n : Nat) : Option Xml.Name :=
  match axis, d.kind n with
  | .attribute, .attribute name => some name
  | .attribute, _ => none
  | .namespaces, .space p => some ⟨none, p, none⟩
  | .namespaces, _ => none
  | _, .element name => some name
  | _, _ => none

def NodeTest.accepts (d : Document) (axis : Axis) (n : Nat) : NodeTest → Bool
  | .anyNode => true
  | .text => (d.kind n matches .text)
  | .comment => (d.kind n matches .comment)
  | .instruction target =>
    match d.kind n with
    | .instruction found => target.all (· = found)
    | _ => false
  | .anyName => (axis.name? d n).isSome
  | .name written => (axis.name? d n).any fun name => name.space.isNone && name.localPart = written
  | .scoped => false

/-- The nodes on an axis that a test accepts. A test that names a prefix has no answer for a node
    that it would compare with. -/
def NodeTest.select? (d : Document) (axis : Axis) (test : NodeTest) (n : Nat) :
    Option (List Nat) :=
  let nodes := axis.nodes d n
  if (test matches .scoped) && nodes.any fun m => (axis.name? d m).isSome then none
  else some (nodes.filter fun m => test.accepts d axis m)

/-- A number selects the node at that position, any other value is taken as a truth value. -/
def selects (position : Nat) : Value → Bool
  | .number x => x.toUInt64 = UInt64.ofNat position
  | v => v.toBoolean

/-- The value of an operator that needs both operands. -/
def Operator.combine? (d : Document) (left right : Value) : Operator → Option Value
  | .or | .and => none
  | .equal => some (.boolean (left.equal d right))
  | .unequal => some (.boolean !left.equal d right)
  | .less => some (.boolean (left.toNumber d < right.toNumber d))
  | .atMost => some (.boolean (left.toNumber d ≤ right.toNumber d))
  | .greater => some (.boolean (right.toNumber d < left.toNumber d))
  | .atLeast => some (.boolean (right.toNumber d ≤ left.toNumber d))
  | .plus => some (.number (left.toNumber d + right.toNumber d))
  | .minus => some (.number (left.toNumber d - right.toNumber d))
  | .times => some (.number (left.toNumber d * right.toNumber d))
  | .divide => some (.number (left.toNumber d / right.toNumber d))
  | .modulo => some (.number (Decimal.remainder (left.toNumber d) (right.toNumber d)))
  | .union =>
    match left, right with
    | .nodes ns, .nodes ms => some (.nodes (documentOrder (ns ++ ms)))
    | _, _ => none

mutual

def eval? (d : Document) : Expr → Context → Option Value
  | .literal text, _ => some (.text text)
  | .number x, _ => some (.number x)
  | .variable _, _ => none
  | .call function arguments, c => do
    let vs ← evalAll? d arguments c
    applyFunction? d c function vs
  | .negate e, c => do
    let v ← eval? d e c
    pure (.number (-v.toNumber d))
  | .binary .or left right, c => do
    let a ← eval? d left c
    if a.toBoolean then pure (.boolean true)
    else
      let b ← eval? d right c
      pure (.boolean b.toBoolean)
  | .binary .and left right, c => do
    let a ← eval? d left c
    if !a.toBoolean then pure (.boolean false)
    else
      let b ← eval? d right c
      pure (.boolean b.toBoolean)
  | .binary operator left right, c => do
    let a ← eval? d left c
    let b ← eval? d right c
    operator.combine? d a b
  | .root, _ => some (.nodes [0])
  | .here, c => some (.nodes [c.node])
  | .path start steps, c => do
    match ← eval? d start c with
    | .nodes ns => .nodes <$> followAll? d steps ns
    | _ => none
  | .filter e predicates, c => do
    match ← eval? d e c with
    | .nodes ns => .nodes <$> keepAll? d predicates ns
    | _ => none

def evalAll? (d : Document) : List Expr → Context → Option (List Value)
  | [], _ => some []
  | e :: es, c => do
    let v ← eval? d e c
    let vs ← evalAll? d es c
    pure (v :: vs)

/-- The nodes that the steps lead to, in document order. -/
def followAll? (d : Document) : List Step → List Nat → Option (List Nat)
  | [], ns => some ns
  | .mk axis test predicates :: steps, ns => do
    let found ← ns.mapM fun n => do
      keepAll? d predicates (← test.select? d axis n)
    followAll? d steps (documentOrder found.flatten)

/-- The nodes that satisfy all predicates, each of which counts what the one before has left. -/
def keepAll? (d : Document) : List Expr → List Nat → Option (List Nat)
  | [], ns => some ns
  | p :: ps, ns => do
    let kept ← ns.zipIdx.filterM fun (n, i) => do
      let v ← eval? d p ⟨n, i + 1, ns.length⟩
      pure (selects (i + 1) v)
    keepAll? d ps (kept.map Prod.fst)

end

/-- The text of the value of a query over a payload, or nothing. -/
def evaluate : QueryEvaluator := fun query payload =>
  match Expr.ofText? query, Document.ofText? payload with
  | some e, some d => ((eval? d e ⟨0, 1, 1⟩).map fun v => v.toText d).getD ""
  | _, _ => ""

end RuleVerify.XPath
