import RuleVerify.Error
import RuleVerify.Event
import RuleVerify.Text.Split
import RuleVerify.Toml.Reader

namespace RuleVerify

/-- What a document may set and overrides by name may set again. -/
structure Config where
  delimiters : Delimiters
  /-- Identifiers of the libraries for the sandbox. -/
  libraries : List String
  /-- Whether a dialog is confirmed once it is verified. -/
  alertsAutoConfirm : Bool
deriving DecidableEq, Repr

namespace Config

def default : Config where
  delimiters := .default
  libraries := ["lodash"]
  alertsAutoConfirm := true

/-- Why there is no configuration. -/
inductive Fault where
  /-- The text is no TOML document. -/
  | malformed
  /-- A setting has a value of another type. -/
  | mistyped
  | emptyDelimiter (name : String)
  | confirmValue (value : String)
  | unreadable (path cause : String)

/-- The names of the overrides. -/
def typesName : String := "TRUST_VERIFICATION_TYPES_DELIMITER"

def categoryName : String := "TRUST_VERIFICATION_TYPE_DELIMITER"

def rulesName : String := "TRUST_VERIFICATION_RULES_DELIMITER"

def librariesName : String := "TRUST_LOAD_SCRIPTS"

def confirmName : String := "TRUST_ALERTS_AUTO_CONFIRM"

def Fault.reason : Fault → String
  | .malformed => "failed to parse TRUST config TOML: malformed document"
  | .mistyped => "failed to parse TRUST config TOML: a setting has the wrong type"
  | .emptyDelimiter name => "the " ++ name ++ " delimiter must not be empty"
  | .confirmValue value =>
    confirmName ++ " must be 'true' or 'false', got '" ++ value ++ "'"
  | .unreadable path cause => "failed to read config file '" ++ path ++ "': " ++ cause

def Fault.error (fault : Fault) : Error := .config fault.reason

/-- A configuration whose delimiters are not empty. -/
def validate (c : Config) : Except Error Config :=
  match c.delimiters.firstEmpty? with
  | some name => .error (Fault.emptyDelimiter name).error
  | none => .ok c

open Toml (Node)

/-- A text, or the default where there is none. -/
def textOr? (default : String) : Option Node → Option String
  | none => some default
  | some (.string s) => some s
  | some _ => none

/-- Delimiters are a table, or an array of at most three texts that count. -/
def delimiters? : Option Node → Option Delimiters
  | none => some .default
  | some (.table _ members) => fields? (members.lookup "types") (members.lookup "category")
      (members.lookup "rules")
  | some (.array items) => fields? items[0]? items[1]? items[2]?
  | some _ => none
where
  fields? (types category rules : Option Node) : Option Delimiters := do
    let d := Delimiters.default
    let types ← textOr? d.types types
    let category ← textOr? d.category category
    let rules ← textOr? d.rules rules
    pure ⟨types, category, rules⟩

def libraries? : Option Node → Option (List String)
  | none => some default.libraries
  | some (.array items) => items.mapM fun item => textOr? "" (some item)
  | some _ => none

def confirm? : Option Node → Option Bool
  | none => some default.alertsAutoConfirm
  | some (.boolean b) => some b
  | some _ => none

/-- The settings of a document. Keys of other names are ignored. -/
def ofNode? : Node → Option Config
  | .table _ members => do
    let delimiters ← delimiters? (members.lookup "delimiters")
    let libraries ← libraries? (members.lookup "libraries")
    let confirm ← confirm? (members.lookup "alerts_auto_confirm")
    pure ⟨delimiters, libraries, confirm⟩
  | _ => none

def ofToml (text : String) : Except Error Config :=
  match Node.read? text with
  | none => .error Fault.malformed.error
  | some node =>
    match ofNode? node with
    | none => .error Fault.mistyped.error
    | some c => c.validate

/-- The identifiers between semicolons, without white space around them; blank ones are none. -/
def readLibraries (text : String) : List String :=
  (((text.toList.splitOn ';').map Text.trim).filter (!·.isEmpty)).map String.ofList

/-- A truth value as the overrides write it. -/
def readConfirm (text : String) : Except Error Bool :=
  let word := Text.trim text.toList
  if word = "true".toList then .ok true
  else if word = "false".toList then .ok false
  else .error (Fault.confirmValue text).error

/-- The configuration with the settings that are overridden, which has to be valid as a whole. -/
def withOverrides (c : Config) (lookup : String → Option String) : Except Error Config := do
  let delimiters : Delimiters :=
    { types := (lookup typesName).getD c.delimiters.types
      category := (lookup categoryName).getD c.delimiters.category
      rules := (lookup rulesName).getD c.delimiters.rules }
  let libraries := ((lookup librariesName).map readLibraries).getD c.libraries
  let confirm ← match lookup confirmName with
    | some text => readConfirm text
    | none => .ok c.alertsAutoConfirm
  validate ⟨delimiters, libraries, confirm⟩

/-- Notes a resolved configuration. -/
def resolve (c : Config) (lookup : String → Option String) : Traced (Except Error Config) :=
  match c.withOverrides lookup with
  | .ok c => ⟨.ok c, [.configResolved c.delimiters c.libraries]⟩
  | .error e => pure (.error e)

end Config

end RuleVerify
