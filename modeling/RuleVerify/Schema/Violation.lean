import RuleVerify.Json.Compare

namespace RuleVerify.Schema

open Json (Value)

/-- The types that a schema can ask for, in the order in which they are listed. -/
inductive Kind where
  | array
  | boolean
  | integer
  | null
  | number
  | object
  | string
deriving DecidableEq, Repr

namespace Kind

def all : List Kind := [array, boolean, integer, null, number, object, string]

def name : Kind → String
  | array => "array"
  | boolean => "boolean"
  | integer => "integer"
  | null => "null"
  | number => "number"
  | object => "object"
  | string => "string"

def ofName? (s : String) : Option Kind := all.find? fun k => k.name = s

/-- A number without a fraction is an integer, however it is written. -/
def accepts : Kind → Value → Bool
  | array, .array _ => true
  | boolean, .boolean _ => true
  | integer, .integer _ => true
  | integer, .float x => x == x.floor
  | null, .null => true
  | number, .integer _ => true
  | number, .float _ => true
  | object, .object _ => true
  | string, .string _ => true
  | _, _ => false

end Kind

/-- What is wrong with a value. -/
inductive Complaint where
  | forbidden
  | wrongType (allowed : List Kind)
  | missing (name : String)
  | belowMinimum (limit : Value)
  | aboveMaximum (limit : Value)
  | notAboveMinimum (limit : Value)
  | notBelowMaximum (limit : Value)
  | notMultiple (factor : Float)
  | tooShort (limit : Nat)
  | tooLong (limit : Nat)
  | tooFewItems (limit : Nat)
  | tooManyItems (limit : Nat)
  | tooFewMembers (limit : Nat)
  | tooManyMembers (limit : Nat)
  | unmatched (pattern : String)
  | repeatedItems
  | nothingContained
  | notListed (options : Value)
  | notConstant (expected : Value)
  | notAllowed (schema : Value)
  | noAlternative (keyword : String)
  | severalAlternatives
  /-- Members that no part of the schema knows. -/
  | unexpected (names : List String)

/-- A number of things. -/
def counted (n : Nat) (one many : String) : String :=
  toString n ++ " " ++ (if n = 1 then one else many)

/-- What is said of an instance. -/
def Complaint.text (instanceText : String) : Complaint → String
  | forbidden => "False schema does not allow " ++ instanceText
  | wrongType [k] => instanceText ++ " is not of type \"" ++ k.name ++ "\""
  | wrongType ks => instanceText ++ " is not of types " ++
    String.intercalate ", " (ks.map fun k => "\"" ++ k.name ++ "\"")
  | missing name => Value.renderString name ++ " is a required property"
  | belowMinimum limit => instanceText ++ " is less than the minimum of " ++ limit.render
  | aboveMaximum limit => instanceText ++ " is greater than the maximum of " ++ limit.render
  | notAboveMinimum limit =>
    instanceText ++ " is less than or equal to the minimum of " ++ limit.render
  | notBelowMaximum limit =>
    instanceText ++ " is greater than or equal to the maximum of " ++ limit.render
  | notMultiple factor =>
    instanceText ++ " is not a multiple of " ++ Decimal.Layout.plain.write factor
  | tooShort n => instanceText ++ " is shorter than " ++ counted n "character" "characters"
  | tooLong n => instanceText ++ " is longer than " ++ counted n "character" "characters"
  | tooFewItems n => instanceText ++ " has less than " ++ counted n "item" "items"
  | tooManyItems n => instanceText ++ " has more than " ++ counted n "item" "items"
  | tooFewMembers n => instanceText ++ " has less than " ++ counted n "property" "properties"
  | tooManyMembers n => instanceText ++ " has more than " ++ counted n "property" "properties"
  | unmatched pattern => instanceText ++ " does not match \"" ++ pattern ++ "\""
  | repeatedItems => instanceText ++ " has non-unique elements"
  | nothingContained => "None of " ++ instanceText ++ " are valid under the given schema"
  | notListed options => instanceText ++ " is not one of " ++ options.render
  | notConstant expected => expected.render ++ " was expected"
  | notAllowed schema => schema.render ++ " is not allowed for " ++ instanceText
  | noAlternative keyword =>
    instanceText ++ " is not valid under any of the schemas listed in the '" ++ keyword ++
      "' keyword"
  | severalAlternatives =>
    instanceText ++ " is valid under more than one of the schemas listed in the 'oneOf' keyword"
  | unexpected names =>
    "Additional properties are not allowed (" ++
      String.intercalate ", " (names.map fun n => "'" ++ n ++ "'") ++
      (if names.length = 1 then " was" else " were") ++ " unexpected)"

/-- A complaint about a part of a payload. -/
structure Violation where
  /-- The names and indexes that lead to the part, the last one first. -/
  location : List String
  text : String
deriving DecidableEq, Repr

/-- A step of a JSON pointer, in which tildes and slashes are escaped. -/
def pointerStep (step : String) : String :=
  "/" ++ String.ofList (step.toList.flatMap fun c =>
    if c = '~' then ['~', '0'] else if c = '/' then ['~', '1'] else [c])

def pointer (location : List String) : String := String.join (location.reverse.map pointerStep)

def Violation.message (v : Violation) : String := "at '" ++ pointer v.location ++ "': " ++ v.text

end RuleVerify.Schema
