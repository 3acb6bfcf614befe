import RuleVerify.Decimal.Nearest
import RuleVerify.Schema.Violation
import RuleVerify.Text.Pattern

namespace RuleVerify.Schema

open Json (Value)

/-- The violations of a schema by an instance at a location. -/
abbrev Check := Value → Value → List String → List Violation

/-- In patterns, `.` is any character but a line feed. -/
def isLineEnd (c : Char) : Bool := c = '\n'

def matchesPattern (pattern text : String) : Bool :=
  match Text.Pattern.ofText? pattern with
  | some p => p.occursIn isLineEnd text.toList
  | none => false

/-- A count, which may be written with a fraction of zero. -/
def count? : Value → Option Nat
  | .integer n => if 0 ≤ n then some n.toNat else none
  | .float x => if x == x.floor && 0 ≤ x then some x.toUInt64.toNat else none
  | _ => none

/-- The gap between one and the next binary64 number. -/
def epsilon : Float := Float.ofScientific 2220446049250313 true 31

/-- The shortest decimal of one number is a multiple of that of another. -/
def isDecimalMultiple (x factor : Float) : Bool :=
  let a := (Decimal.Binary.ofFloat x).shortest .up
  let b := (Decimal.Binary.ofFloat factor).shortest .up
  let scale := min a.exponent b.exponent
  let m := a.digits * Nat.pow 10 (a.exponent - scale).toNat
  let n := b.digits * Nat.pow 10 (b.exponent - scale).toNat
  m % n = 0

/-- Multiples of a whole factor leave no remainder. For any other factor, the numbers count as the
    decimals that they are written with. -/
def isMultiple (x factor : Float) : Bool :=
  if factor == factor.floor then x == x.floor && Decimal.remainder x factor == 0
  else isDecimalMultiple x factor

/-- Numbers less than epsilon apart count as the same constant. -/
def isConstant (expected v : Value) : Bool :=
  match expected.float?, v.float? with
  | some x, some y => (x - y).abs < epsilon
  | _, _ => expected.same v

/-- The step of a pointer that a text writes. -/
def unescapeStep : List Char → List Char
  | '~' :: '0' :: cs => '~' :: unescapeStep cs
  | '~' :: '1' :: cs => '/' :: unescapeStep cs
  | c :: cs => c :: unescapeStep cs
  | [] => []

def followStep? (v : Value) (step : List Char) : Option Value :=
  let name := String.ofList (unescapeStep step)
  match v with
  | .object members => members.lookup name
  | .array items => name.toNat? >>= fun i => items[i]?
  | _ => none

/-- The part of a document that a reference names: all of it, the place of a pointer, or the
    schema with that anchor. -/
def resolve? (document : Value) (reference : String) : Option Value :=
  match reference.toList with
  | ['#'] => some document
  | '#' :: '/' :: path => (path.splitOn '/').foldlM followStep? document
  | '#' :: anchor => document.descendants.find? fun v =>
    match v.member? "$anchor" with
    | some (.string s) => s = String.ofList anchor
    | _ => false
  | base => document.descendants.find? fun v =>
    match v.member? "$id" with
    | some (.string s) => s = String.ofList base
    | _ => false

section Keywords

variable (check : Check) (place : List String) (v : Value)

def complain (c : Complaint) : List Violation := [⟨place, c.text v.render⟩]

/-- A complaint unless a condition holds. -/
def require (condition : Bool) (c : Complaint) : List Violation :=
  if condition then [] else complain place v c

def satisfies (schema value : Value) : Bool := (check schema value place).isEmpty

/-- The schema of a name in an object of schemas. -/
def schemaOf? (schemas : Option Value) (name : String) : Option Value :=
  schemas >>= fun s => s.member? name

/-- The schemas whose pattern matches a name. -/
def patternSchemas (patterns : Option Value) (name : String) : List Value :=
  match patterns with
  | some (.object entries) =>
    (entries.filter fun entry => matchesPattern entry.1 name).map Prod.snd
  | _ => []

/-- Members that are neither listed nor matched by a pattern. The violations of the listed and the
    matched ones are among these, member by member. -/
def additionalMembers (parent : List (String × Value)) (additional : Value)
    (members : List (String × Value)) : List Violation :=
  let properties := parent.lookup "properties"
  let patterns := parent.lookup "patternProperties"
  let schemas (name : String) : List Value :=
    (schemaOf? properties name).toList ++ patternSchemas patterns name
  let known := members.flatMap fun (name, value) =>
    let found := schemas name
    let applied := if found.isEmpty && additional matches .object _ then [additional] else found
    applied.flatMap fun schema => check schema value (name :: place)
  let others := (members.map Prod.fst).filter fun name => (schemas name).isEmpty
  match additional with
  | .boolean false =>
    if properties.isNone && patterns.isNone then
      match members.head? with
      | some (_, value) => complain place value .forbidden
      | none => []
    else known ++ (if others.isEmpty then [] else complain place v (.unexpected others))
  | _ => known

/-- The keyword `additionalProperties` takes care of the other members, too. -/
def hasAdditional (parent : List (String × Value)) : Bool :=
  match parent.lookup "additionalProperties" with
  | some (.boolean false) => true
  | some (.object _) => true
  | _ => false

def listedMembers (schemas members : List (String × Value)) : List Violation :=
  schemas.flatMap fun (name, schema) =>
    ((members.lookup name).map fun value => check schema value (name :: place)).getD []

def matchedMembers (schemas members : List (String × Value)) : List Violation :=
  schemas.flatMap fun (pattern, schema) =>
    (members.filter fun m => matchesPattern pattern m.1).flatMap fun (name, value) =>
      check schema value (name :: place)

/-- The names of members, each as a value. Their violations are those of the object. -/
def memberNames (schema : Value) (members : List (String × Value)) : List Violation :=
  match schema with
  | .boolean false => require place v members.isEmpty .forbidden
  | _ => members.flatMap fun (name, _) =>
    (check schema (.string name) place).map fun violation => { violation with location := place }

def requiredNames (names : List Value) (members : List (String × Value)) : List Violation :=
  names.flatMap fun
    | .string name => require place v (members.lookup name).isSome (.missing name)
    | _ => []

/-- What members require beside them: other members, or a schema for the whole object. -/
def dependencies (entries members : List (String × Value)) : List Violation :=
  entries.flatMap fun (name, dependency) =>
    if (members.lookup name).isNone then []
    else match dependency with
      | .array names => requiredNames place v names members
      | schema => check schema v place

/-- The items from an index on. -/
def itemsFrom (schema : Value) (first : Nat) (items : List Value) : List Violation :=
  (items.zipIdx.drop first).flatMap fun (item, i) => check schema item (toString i :: place)

def leadingItems (schemas items : List Value) : List Violation :=
  (schemas.zip items).zipIdx.flatMap fun ((schema, item), i) =>
    check schema item (toString i :: place)

/-- Every item differs from those behind it. -/
def allDistinct : List Value → Bool
  | [] => true
  | v :: vs => !vs.any v.same && allDistinct vs

def containedItems (parent : List (String × Value)) (schema : Value) (items : List Value) :
    List Violation :=
  let hits := (items.filter fun item => satisfies check place schema item).length
  let least := (parent.lookup "minContains" >>= count?).getD 1
  let most := parent.lookup "maxContains" >>= count?
  require place v (least ≤ hits && most.all (hits ≤ ·)) .nothingContained

def alternatives (schemas : List Value) : Nat :=
  (schemas.filter fun schema => satisfies check place schema v).length

/-- The kinds that a `type` keyword allows. -/
def kinds (value : Value) : List Kind :=
  let names := match value with
    | .string s => [s]
    | .array items => items.filterMap fun
      | Value.string s => some s
      | _ => none
    | _ => []
  Kind.all.filter fun k => k.name ∈ names

/-- Keywords for any instance. -/
def generalKeyword (parent : List (String × Value)) (name : String) (value : Value) :
    List Violation :=
  match name, value with
  | "type", _ => require place v ((kinds value).any fun k => k.accepts v) (.wrongType (kinds value))
  | "const", _ => require place v (isConstant value v) (.notConstant value)
  | "enum", .array options => require place v (options.any fun o => o.same v) (.notListed value)
  | "allOf", .array schemas => schemas.flatMap fun schema => check schema v place
  | "anyOf", .array schemas =>
    require place v (alternatives check place v schemas != 0) (.noAlternative name)
  | "oneOf", .array schemas =>
    match alternatives check place v schemas with
    | 0 => complain place v (.noAlternative name)
    | 1 => []
    | _ => complain place v .severalAlternatives
  | "not", _ => require place v (!satisfies check place value v) (.notAllowed value)
  | "if", _ =>
    let branch := parent.lookup (if satisfies check place value v then "then" else "else")
    (branch.map fun schema => check schema v place).getD []
  | _, _ => []

def numberKeyword (name : String) (limit : Value) : List Violation :=
  match name with
  | "minimum" => require place v (!v.numberLess limit) (.belowMinimum limit)
  | "maximum" => require place v (!limit.numberLess v) (.aboveMaximum limit)
  | "exclusiveMinimum" => require place v (limit.numberLess v) (.notAboveMinimum limit)
  | "exclusiveMaximum" => require place v (v.numberLess limit) (.notBelowMaximum limit)
  | "multipleOf" =>
    match v.float?, limit.float? with
    | some x, some factor => require place v (isMultiple x factor) (.notMultiple factor)
    | _, _ => []
  | _ => []

def stringKeyword (text : String) (name : String) (value : Value) : List Violation :=
  match name, value, count? value with
  | "minLength", _, some n => require place v (n ≤ text.length) (.tooShort n)
  | "maxLength", _, some n => require place v (text.length ≤ n) (.tooLong n)
  | "pattern", .string p, _ => require place v (matchesPattern p text) (.unmatched p)
  | _, _, _ => []

def arrayKeyword (parent : List (String × Value)) (items : List Value) (name : String)
    (value : Value) : List Violation :=
  match name, value, count? value with
  | "minItems", _, some n => require place v (n ≤ items.length) (.tooFewItems n)
  | "maxItems", _, some n => require place v (items.length ≤ n) (.tooManyItems n)
  | "uniqueItems", .boolean true, _ => require place v (allDistinct items) .repeatedItems
  | "prefixItems", .array schemas, _ => leadingItems check place schemas items
  | "items", _, _ =>
    let first := match parent.lookup "prefixItems" with
      | some (.array schemas) => schemas.length
      | _ => 0
    itemsFrom check place value first items
  | "contains", _, _ => containedItems check place v parent value items
  | _, _, _ => []

def objectKeyword (parent members : List (String × Value)) (name : String) (value : Value) :
    List Violation :=
  match name, value, count? value with
  | "minProperties", _, some n => require place v (n ≤ members.length) (.tooFewMembers n)
  | "maxProperties", _, some n => require place v (members.length ≤ n) (.tooManyMembers n)
  | "required", .array names, _ => requiredNames place v names members
  | "propertyNames", _, _ => memberNames check place v value members
  | "dependentRequired", .object entries, _ => dependencies check place v entries members
  | "dependentSchemas", .object entries, _ => dependencies check place v entries members
  | "dependencies", .object entries, _ => dependencies check place v entries members
  | "additionalProperties", .boolean false, _ | "additionalProperties", .object _, _ =>
    additionalMembers check place v parent value members
  | "properties", .object schemas, _ =>
    if hasAdditional parent then [] else listedMembers check place schemas members
  | "patternProperties", .object schemas, _ =>
    if hasAdditional parent then [] else matchedMembers check place schemas members
  | _, _, _ => []

/-- The violations of one keyword, which may look at the keywords beside it. -/
def keyword (document : Value) (parent : List (String × Value)) (name : String) (value : Value) :
    List Violation :=
  match name, value with
  | "$ref", .string reference =>
    ((resolve? document reference).map fun schema => check schema v place).getD []
  | _, _ => generalKeyword check place v parent name value ++
    match v with
    | .integer _ | .float _ => numberKeyword place v name value
    | .string text => stringKeyword place v text name value
    | .array items => arrayKeyword check place v parent items name value
    | .object members => objectKeyword check place v parent members name value
    | _ => []

end Keywords

/-- The violations of a schema, found along at most `bound` schemas inside one another. -/
def checkWithin (document : Value) : Nat → Check
  | 0, _, _, _ => []
  | bound + 1, schema, v, place =>
    match schema with
    | .boolean false => complain place v .forbidden
    | .object keywords => keywords.flatMap fun (name, value) =>
      keyword (checkWithin document bound) place v document keywords name value
    | _ => []

/-- All violations of a document by a value. A chain of schemas that does not come back to the
    same schema for the same part of the value is no longer than the bound. -/
def violations (document v : Value) : List Violation :=
  checkWithin document (document.descendants.length * (v.descendants.length + 1) + 1) document v []

end RuleVerify.Schema
