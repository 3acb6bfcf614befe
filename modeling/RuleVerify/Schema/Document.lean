import RuleVerify.Json.Reader
import RuleVerify.Schema.Check

namespace RuleVerify.Schema

open Json (Value)

/-- The forms of the values of keywords. -/
inductive Form where
  | schema
  /-- A list of schemas, at least one. -/
  | schemaList
  /-- An object of schemas. -/
  | schemaMap
  /-- An object of schemas whose names are patterns. -/
  | patternMap
  | count
  | number
  | positiveNumber
  | kinds
  | text
  | pattern
  | reference
  | boolean
  | list
  | names
  /-- An object of lists of names. -/
  | namesMap
  /-- An object of schemas and lists of names. -/
  | dependencyMap

def forms : List (String × Form) :=
  [("additionalProperties", .schema), ("contains", .schema), ("propertyNames", .schema),
   ("not", .schema), ("if", .schema), ("then", .schema), ("else", .schema), ("items", .schema),
   ("unevaluatedItems", .schema), ("unevaluatedProperties", .schema), ("contentSchema", .schema),
   ("allOf", .schemaList), ("anyOf", .schemaList), ("oneOf", .schemaList),
   ("prefixItems", .schemaList), ("properties", .schemaMap), ("dependentSchemas", .schemaMap),
   ("$defs", .schemaMap), ("definitions", .schemaMap), ("patternProperties", .patternMap),
   ("minLength", .count), ("maxLength", .count), ("minItems", .count), ("maxItems", .count),
   ("minProperties", .count), ("maxProperties", .count), ("minContains", .count),
   ("maxContains", .count), ("minimum", .number), ("maximum", .number),
   ("exclusiveMinimum", .number), ("exclusiveMaximum", .number), ("multipleOf", .positiveNumber),
   ("type", .kinds), ("pattern", .pattern), ("$ref", .reference), ("format", .text),
   ("title", .text), ("description", .text), ("$comment", .text), ("contentEncoding", .text),
   ("contentMediaType", .text), ("$schema", .text), ("$id", .text), ("$anchor", .text),
   ("$dynamicRef", .text), ("$dynamicAnchor", .text), ("uniqueItems", .boolean),
   ("deprecated", .boolean), ("readOnly", .boolean), ("writeOnly", .boolean), ("enum", .list),
   ("examples", .list), ("required", .names), ("dependentRequired", .namesMap),
   ("dependencies", .dependencyMap)]

def isText : Value → Bool
  | .string _ => true
  | _ => false

def isNumber (v : Value) : Bool := v.ratio?.isSome

def isPattern (text : String) : Bool := (Text.Pattern.ofText? text).isSome

/-- A list of texts, none of them twice. -/
def areNames : Value → Bool
  | .array items => items.all isText && allDistinct items
  | _ => false

def isKindName : Value → Bool
  | .string s => (Kind.ofName? s).isSome
  | _ => false

/-- A kind, or a list of at least one kind, none of them twice. -/
def areKinds : Value → Bool
  | .array items => !items.isEmpty && items.all isKindName && allDistinct items
  | v => isKindName v

/-- A reference leads to something that can be a schema. -/
def isReference (document : Value) : Value → Bool
  | .string s =>
    match resolve? document s with
    | some (.object _) => true
    | some (.boolean _) => true
    | _ => false
  | _ => false

/-- A value has a form, in which `isSchema` says what a schema is. -/
def Form.accepts (document : Value) (isSchema : Value → Bool) : Form → Value → Bool
  | schema, v => isSchema v
  | schemaList, .array items => !items.isEmpty && items.all isSchema
  | schemaMap, .object members => members.all fun m => isSchema m.2
  | patternMap, .object members => members.all fun m => isPattern m.1 && isSchema m.2
  | count, v => (count? v).isSome
  | number, v => isNumber v
  | positiveNumber, v => isNumber v && (Value.integer 0).numberLess v
  | kinds, v => areKinds v
  | text, v => isText v
  | pattern, .string s => isPattern s
  | reference, v => isReference document v
  | boolean, .boolean _ => true
  | list, .array _ => true
  | names, v => areNames v
  | namesMap, .object members => members.all fun m => areNames m.2
  | dependencyMap, .object members => members.all fun m => isSchema m.2 || areNames m.2
  | _, _ => false

/-- A value of at most the given depth is a schema. -/
def isSchemaWithin (document : Value) : Nat → Value → Bool
  | _, .boolean _ => true
  | depth + 1, .object members =>
    members.all fun (name, value) =>
      match forms.lookup name with
      | some form => form.accepts document (isSchemaWithin document depth) value
      | none => true
  | _, _ => false

/-- A document is a schema. Its depth is that of the text it was read from. -/
def isSchema (document : Value) : Bool := isSchemaWithin document (Json.maxDepth + 1) document

end RuleVerify.Schema
