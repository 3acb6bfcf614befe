import RuleVerify.XPath.Value

namespace RuleVerify.XPath

open Xml (Document)

/-- What an expression is evaluated for: a node and its place among the nodes around it. -/
structure Context where
  node : Nat
  position : Nat
  size : Nat

/-- The nearest whole number; halves go up, and what is negative stays so. -/
def roundHalfUp (x : Float) : Float :=
  let low := x.floor
  if x == low then x
  else
    let nearest := (2 * x - low).floor
    if nearest == 0 && x < 0 then -0 else nearest

/-- The part of a text before the first occurrence of `part`, and the part behind it. -/
def splitAround (part : List Char) : List Char → Option (List Char × List Char)
  | [] => if part.isEmpty then some ([], []) else none
  | c :: cs =>
    if part.isPrefixOf (c :: cs) then some ([], (c :: cs).drop part.length)
    else (splitAround part cs).map fun (before, behind) => (c :: before, behind)

/-- The characters of a text from a position on, which counts from one. -/
def substring (s : String) (first count : Float) : String :=
  let chars := s.toList.zipIdx.filter fun (_, i) =>
    let p := Float.ofNat (i + 1)
    first ≤ p && p < first + count
  String.ofList (chars.map Prod.fst)

/-- Replaces each character of `old` by the one at the same place of `new`, or by nothing. -/
def translate (s old new : String) : String :=
  let table := old.toList.zipIdx.map fun (c, i) => (c, new.toList[i]?)
  String.ofList (s.toList.filterMap fun c => (table.lookup c).getD (some c))

/-- The words between white space of XML, with single blanks between them. -/
def normalizeSpace (s : String) : String :=
  let words := (s.toList.splitOnP Xml.isSpace).filter fun w => !w.isEmpty
  String.ofList (List.intercalate [' '] words)

/-- The name of a node that has one. Prefixes and instructions are in no namespace. -/
def name? (d : Document) (n : Nat) : Option Xml.Name :=
  match d.kind n with
  | .element name | .attribute name => some name
  | .space p => some ⟨none, p, none⟩
  | .instruction target => some ⟨none, target, none⟩
  | _ => none

/-- A name with the prefix for its namespace. -/
def qualifiedName (name : Xml.Name) : String :=
  match name.scope with
  | some p => p ++ ":" ++ name.localPart
  | none => name.localPart

/-- What `f` says of the name of the first node, or of the context node if there is no argument. -/
def ofName? (d : Document) (c : Context) (f : Xml.Name → String) : List Value → Option Value
  | [] => some (.text (((name? d c.node).map f).getD ""))
  | [.nodes ns] => some (.text ((ns.head? >>= name? d).elim "" f))
  | _ => none

/-- What `f` says of the only argument, or of the context node if there is none. -/
def ofArgument? (c : Context) (f : Value → Value) : List Value → Option Value
  | [] => some (f (.nodes [c.node]))
  | [v] => some (f v)
  | _ => none

def applyFunction? (d : Document) (c : Context) (function : String) (arguments : List Value) :
    Option Value :=
  let text (v : Value) := v.toText d
  let number (v : Value) := v.toNumber d
  match function, arguments with
  | "last", [] => some (.number (.ofNat c.size))
  | "position", [] => some (.number (.ofNat c.position))
  | "count", [.nodes ns] => some (.number (.ofNat ns.length))
  | "local-name", vs => ofName? d c Xml.Name.localPart vs
  | "namespace-uri", vs => ofName? d c (·.space.getD "") vs
  | "name", vs => ofName? d c qualifiedName vs
  | "string", vs => ofArgument? c (.text ∘ text) vs
  | "concat", v :: w :: vs => some (.text (String.join ((v :: w :: vs).map text)))
  | "starts-with", [a, b] => some (.boolean ((text b).toList.isPrefixOf (text a).toList))
  | "contains", [a, b] => some (.boolean (splitAround (text b).toList (text a).toList).isSome)
  | "substring-before", [a, b] =>
    let parts := splitAround (text b).toList (text a).toList
    some (.text ((parts.map fun p => String.ofList p.1).getD ""))
  | "substring-after", [a, b] =>
    let parts := splitAround (text b).toList (text a).toList
    some (.text ((parts.map fun p => String.ofList p.2).getD ""))
  | "substring", [s, first] =>
    some (.text (substring (text s) (roundHalfUp (number first)) (1 / 0)))
  | "substring", [s, first, count] =>
    some (.text (substring (text s) (roundHalfUp (number first)) (roundHalfUp (number count))))
  | "string-length", vs => ofArgument? c (fun v => .number (.ofNat (text v).length)) vs
  | "normalize-space", vs => ofArgument? c (fun v => .text (normalizeSpace (text v))) vs
  | "translate", [s, old, new] => some (.text (translate (text s) (text old) (text new)))
  | "boolean", [v] => some (.boolean v.toBoolean)
  | "not", [v] => some (.boolean !v.toBoolean)
  | "true", [] => some (.boolean true)
  | "false", [] => some (.boolean false)
  | "number", vs => ofArgument? c (.number ∘ number) vs
  | "sum", [.nodes ns] =>
    some (.number (ns.foldl (fun sum n => sum + numberOfText (d.stringValue n)) 0))
  | "floor", [v] => some (.number (number v).floor)
  | "ceiling", [v] => some (.number (number v).ceil)
  | "round", [v] => some (.number (roundHalfUp (number v)))
  | _, _ => none

end RuleVerify.XPath
