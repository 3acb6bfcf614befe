import RuleVerify.Decimal.Layout
import RuleVerify.Decimal.Read
import RuleVerify.Text.Blank
import RuleVerify.Xml.Document

namespace RuleVerify.XPath

open Xml (Document)

/-- A set of nodes is the list of its nodes in document order; as a text or a number it stands for
    its first node. -/
inductive Value where
  | nodes (ns : List Nat)
  | number (x : Float)
  | text (s : String)
  | boolean (b : Bool)

/-- Numbers have as many decimals as they need, and never an exponent. -/
def numberLayout : Decimal.Layout := { Decimal.Layout.plain with infinity := "Infinity" }

/-- The number that a text writes, or NaN. -/
def numberOfText (s : String) : Float := (Decimal.readFloat? (Text.trim s.toList)).getD (0 / 0)

/-- Nodes in document order, each once. -/
def documentOrder (ns : List Nat) : List Nat := (ns.mergeSort (· ≤ ·)).eraseReps

namespace Value

def toText (d : Document) : Value → String
  | nodes ns => (ns.head?.map d.stringValue).getD ""
  | number x => numberLayout.write x
  | text s => s
  | boolean b => if b then "true" else "false"

def toNumber (d : Document) : Value → Float
  | number x => x
  | boolean b => if b then 1 else 0
  | v => numberOfText (v.toText d)

def toBoolean : Value → Bool
  | nodes ns => !ns.isEmpty
  | number x => x != 0 && !x.isNaN
  | text s => !s.isEmpty
  | boolean b => b

/-- Equality. A set of nodes equals a text or a number if one of its nodes does, and two sets are
    equal if they share a text. -/
def equal (d : Document) : Value → Value → Bool
  | nodes ns, nodes ms => (ns.map d.stringValue).any fun s => s ∈ ms.map d.stringValue
  | nodes ns, number x | number x, nodes ns =>
    ns.any fun n => numberOfText (d.stringValue n) == x
  | nodes ns, text s | text s, nodes ns => ns.any fun n => d.stringValue n == s
  | boolean a, b => a == b.toBoolean
  | a, boolean b => a.toBoolean == b
  | number x, b => x == b.toNumber d
  | a, number x => a.toNumber d == x
  | text s, text t => s == t

end Value

end RuleVerify.XPath
