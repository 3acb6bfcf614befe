import RuleVerify.Xml.Token

namespace RuleVerify.Xml

/-- The name of an element or attribute: what it is called in its namespace, if it is in one. -/
structure Name where
  space : Option String
  localPart : String
  /-- The innermost prefix that stands for the namespace where the name is used. -/
  scope : Option String
deriving DecidableEq, Repr

inductive Kind where
  | root
  | element (name : Name)
  | attribute (name : Name)
  /-- A prefix in scope; its text is the namespace. -/
  | space (scope : String)
  | text
  | comment
  | instruction (target : String)

structure Entry where
  kind : Kind
  /-- The text of a node that has one of its own. -/
  text : String
  depth : Nat
  parent : Option Nat

/-- Attributes and prefixes belong to an element without being in it. -/
def Entry.isAttached (e : Entry) : Bool :=
  match e.kind with
  | .attribute _ | .space _ => true
  | _ => false

/-- A node is the index of its entry, and the entries stand in document order, so nodes are compared
    by comparing indexes. -/
abbrev Document := Array Entry

namespace Document

def parent? (d : Document) (n : Nat) : Option Nat := d[n]? >>= Entry.parent

def depth (d : Document) (n : Nat) : Nat := (d[n]?.map Entry.depth).getD 0

def kind (d : Document) (n : Nat) : Kind := (d[n]?.map Entry.kind).getD .root

def isAttached (d : Document) (n : Nat) : Bool := (d[n]?.map Entry.isAttached).getD false

/-- The nodes behind a node that are deeper, what is attached to it and to them included. -/
def inside (d : Document) (n : Nat) : List Nat :=
  (List.range' (n + 1) (d.size - n - 1)).takeWhile fun i => d.depth n < d.depth i

def descendants (d : Document) (n : Nat) : List Nat :=
  (d.inside n).filter fun i => !d.isAttached i

def children (d : Document) (n : Nat) : List Nat :=
  (d.descendants n).filter fun i => d.depth i = d.depth n + 1

def attached (d : Document) (n : Nat) : List Nat := (d.inside n).takeWhile d.isAttached

/-- The attributes of an element in the order of their written names. -/
def attributes (d : Document) (n : Nat) : List Nat :=
  ((d.attached n).filter fun i => d.kind i matches .attribute _).reverse

/-- The prefixes in scope. -/
def spaces (d : Document) (n : Nat) : List Nat :=
  (d.attached n).filter fun i => d.kind i matches .space _

/-- The nodes around a node, from the inside out. At most `bound` of them. -/
def ancestorsWithin (d : Document) : Nat → Nat → List Nat
  | 0, _ => []
  | bound + 1, n =>
    match d.parent? n with
    | some p => p :: ancestorsWithin d bound p
    | none => []

def ancestors (d : Document) (n : Nat) : List Nat := d.ancestorsWithin d.size n

/-- The children of the parent of a node that is one of them. -/
def siblings (d : Document) (n : Nat) : List Nat :=
  if d.isAttached n then [] else ((d.parent? n).map d.children).getD []

/-- The text of a text node, and nothing of any other. -/
def ownText (d : Document) (n : Nat) : String :=
  match d[n]? with
  | some ⟨.text, text, _, _⟩ => text
  | _ => ""

/-- The text of a node: its own, or all text inside it. -/
def stringValue (d : Document) (n : Nat) : String :=
  match d[n]? with
  | none => ""
  | some e =>
    match e.kind with
    | .root | .element _ => String.join ((d.descendants n).map d.ownText)
    | _ => e.text

/-- Namespaces by prefix, the innermost first. -/
abbrev Spaces := List (String × String)

/-- An element whose end has not come yet, and what is declared in it and around it. -/
structure Open where
  node : Nat
  name : QName
  spaces : Spaces
  /-- The namespace of elements without a prefix. -/
  defaultSpace : Option String

/-- A document under construction. -/
structure Draft where
  entries : Document
  elements : List Open
  /-- The root element has begun. -/
  hasRoot : Bool

def Draft.empty : Draft := ⟨#[⟨.root, "", 0, none⟩], [], false⟩

def Draft.push (d : Draft) (kind : Kind) (text : String) : Draft :=
  let parent := (d.elements.head?.map Open.node).getD 0
  { d with entries := d.entries.push ⟨kind, text, d.elements.length + 1, some parent⟩ }

/-- Names with the prefix `xml` need no declaration. -/
def standardSpaces : Spaces := [("xml", "http://www.w3.org/XML/1998/namespace")]

/-- The prefixes in scope, the outermost first. One that is declared again is the inner one. -/
def inScope (spaces : Spaces) : Spaces :=
  (spaces.foldl (fun seen s => if (seen.lookup s.1).isSome then seen else seen ++ [s]) []).reverse

def nameIn (spaces : Spaces) (space : Option String) (localPart : String) : Name where
  space := space
  localPart := localPart
  scope := do
    let uri ← space
    let declaration ← spaces.find? fun s => s.2 = uri
    pure declaration.1

/-- The name that is written with or without a prefix. -/
def resolve? (spaces : Spaces) (defaultSpace : Option String) (name : QName) : Option Name :=
  match name.scope with
  | none => some (nameIn spaces defaultSpace name.localPart)
  | some p => (spaces.lookup p).map fun uri => nameIn spaces (some uri) name.localPart

/-- The name of the attribute that declares the namespace of elements without a prefix. -/
def defaultDeclaration : QName := ⟨none, "xmlns"⟩

/-- An attribute that declares a namespace. -/
def isDeclaration (name : QName) : Bool :=
  name = defaultDeclaration || name.scope = some "xmlns"

/-- The prefixes that attributes declare, none of them for the empty name. -/
def declaredSpaces? (attributes : List (QName × String)) : Option Spaces :=
  let declarations := attributes.filter fun a => a.1.scope = some "xmlns"
  if declarations.any fun a => a.2.isEmpty then none
  else some (declarations.map fun a => (a.1.localPart, a.2))

/-- The namespace for elements without a prefix in an element with the given attributes. The empty
    name takes it back. Elements that have a prefix themselves leave it as it is. -/
def defaultWithin (around : Option String) (name : QName) (attributes : List (QName × String)) :
    Option String :=
  match name.scope, attributes.lookup defaultDeclaration with
  | none, some uri => if uri.isEmpty then none else some uri
  | _, _ => around

/-- Sets an attribute. It takes the place of one that has the same name in the same namespace. -/
def setAttribute (attributes : List (Name × String)) (a : Name × String) :
    List (Name × String) :=
  let others := attributes.filter fun b => b.1.space ≠ a.1.space || b.1.localPart ≠ a.1.localPart
  others ++ [a]

/-- The attributes of an element that are no declarations, set one after the other in the order of
    their written names. -/
def setAttributes? (spaces : Spaces) (attributes : List (QName × String)) :
    Option (List (Name × String)) := do
  let plain := attributes.filter fun a => !isDeclaration a.1
  let sorted := plain.mergeSort fun a b => a.1.atMost b.1
  let named ← sorted.mapM fun a => (resolve? spaces none a.1).map (·, a.2)
  pure (named.foldl setAttribute [])

/-- Opens an element. Of its attributes the last one comes first in document order. -/
def Draft.startElement? (d : Draft) (name : QName) (attributes : List (QName × String)) :
    Option Draft := do
  if (d.elements.isEmpty && d.hasRoot) || !decide (attributes.map Prod.fst).Nodup then none
  let declared ← declaredSpaces? attributes
  let around := d.elements.head?
  let spaces := declared.reverse ++ (around.map Open.spaces).getD standardSpaces
  let defaultSpace := defaultWithin (around >>= Open.defaultSpace) name attributes
  let resolved ← resolve? spaces defaultSpace name
  let own ← setAttributes? spaces attributes
  let d := { d.push (.element resolved) "" with
    elements := ⟨d.entries.size, name, spaces, defaultSpace⟩ :: d.elements, hasRoot := true }
  let d := (inScope spaces).foldl (fun d s => d.push (.space s.1) s.2) d
  pure (own.reverse.foldl (fun d a => d.push (.attribute a.1) a.2) d)

def Draft.endElement? (d : Draft) (name : QName) : Option Draft :=
  match d.elements with
  | e :: elements => if e.name = name then some { d with elements } else none
  | [] => none

/-- Outside the root element, only white space, comments and instructions may stand. -/
def Draft.add? (d : Draft) : Token → Option Draft
  | .startTag name attributes isEmpty => do
    let d ← d.startElement? name attributes
    if isEmpty then d.endElement? name else pure d
  | .endTag name => d.endElement? name
  | .characters text =>
    if !d.elements.isEmpty then some (d.push .text text)
    else if text.toList.all isSpace then some d
    else none
  | .verbatim text => if d.elements.isEmpty then none else some (d.push .text text)
  | .comment text => some (d.push .comment text)
  | .instruction target text => some (d.push (.instruction target) text)

/-- The document that a text writes. It has exactly one root element. -/
def ofText? (text : String) : Option Document := do
  let tokens ← Text.Scan.run? tokens text.toList
  let d ← tokens.foldlM Draft.add? Draft.empty
  if d.elements.isEmpty && d.hasRoot then some d.entries else none

end Document

end RuleVerify.Xml
