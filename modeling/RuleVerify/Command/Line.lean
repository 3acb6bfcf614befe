import RuleVerify.Category
import RuleVerify.Values

namespace RuleVerify.Command

/-- The reference scenarios. -/
inductive Scenario where
  | uiCommon
  | uiAlert
  | apiResponse
deriving DecidableEq, Repr

inductive Action where
  /-- All scenarios in a row. -/
  | runAll
  | run (scenario : Scenario)
  | verify (rules : String) (category : Category) (values : List (String × String))
  | api (rules payload contentType : String) (schema : Option String)
deriving DecidableEq, Repr

structure Line where
  /-- The path of a configuration file. -/
  config : Option String
  /-- Reports are printed as JSON. -/
  json : Bool
  action : Action
deriving DecidableEq, Repr

/-- The options that a command knows. -/
structure Known where
  flags : List String
  valued : List String

/-- Options as they were given, in order. -/
structure Given where
  flags : List String
  valued : List (String × String)

def Given.none : Given := ⟨[], []⟩

/-- An argument that cannot be a value. A hyphen alone can. -/
def isOption (argument : List Char) : Bool :=
  match argument with
  | '-' :: _ :: _ => true
  | _ => false

/-- Splits a text at its first equals sign. -/
def splitEquals (text : List Char) : List Char × Option (List Char) :=
  match text.dropWhile (· ≠ '=') with
  | _ :: value => (text.takeWhile (· ≠ '='), some value)
  | [] => (text, none)

def Given.consFlag (name : String) (g : Given) : Given := { g with flags := name :: g.flags }

def Given.consValue (name value : String) (g : Given) : Given :=
  { g with valued := (name, value) :: g.valued }

/-- The options in front of the first argument that is none, and what follows them. -/
def readOptions? (known : Known) : List String → Option (Given × List String)
  | [] => some (Given.none, [])
  | argument :: arguments =>
    match argument.toList with
    | ['-', '-'] => if arguments.isEmpty then some (Given.none, []) else none
    | '-' :: '-' :: text =>
      let (name, value) := splitEquals text
      let name := String.ofList name
      if name ∈ known.flags then
        if value.isSome then none
        else (readOptions? known arguments).map fun (g, rest) => (g.consFlag name, rest)
      else if name ∈ known.valued then
        match value, arguments with
        | some value, arguments => (readOptions? known arguments).map fun (g, rest) =>
          (g.consValue name (String.ofList value), rest)
        | none, value :: arguments =>
          if isOption value.toList then none
          else (readOptions? known arguments).map fun (g, rest) => (g.consValue name value, rest)
        | none, [] => none
      else none
    | text => if isOption text then none else some (Given.none, argument :: arguments)

/-- The values of an option. -/
def Given.values (g : Given) (name : String) : List String :=
  (g.valued.filter fun o => o.1 = name).map Prod.snd

/-- The value of an option that may be given once. -/
def Given.single? (g : Given) (name : String) : Option (Option String) :=
  match g.values name with
  | [] => some Option.none
  | [value] => some (some value)
  | _ => Option.none

def Given.required? (g : Given) (name : String) : Option String := (g.single? name).join

/-- A path, which is never empty. -/
def Given.path? (g : Given) (name : String) : Option (Option String) :=
  match g.single? name with
  | some (some "") => Option.none
  | other => other

/-- A key and a value around the first equals sign. -/
def readPair? (text : String) : Option (String × String) :=
  match splitEquals text.toList with
  | (key, some value) => some (String.ofList key, String.ofList value)
  | (_, none) => none

/-- Options that stand in front of the command or behind it. -/
def shared : Known := ⟨["json"], ["config"]⟩

def Known.and (a b : Known) : Known := ⟨a.flags ++ b.flags, a.valued ++ b.valued⟩

/-- A command by its name: its own options and what they mean. -/
def command? : String → Option (Known × (Given → Option Action))
  | "run-all" => some (⟨[], []⟩, fun _ => some .runAll)
  | "ui-common" => some (⟨[], []⟩, fun _ => some (.run .uiCommon))
  | "ui-alert" => some (⟨[], []⟩, fun _ => some (.run .uiAlert))
  | "api-response" => some (⟨[], []⟩, fun _ => some (.run .apiResponse))
  | "verify" => some (⟨[], ["rules", "category", "value"]⟩, fun g => do
    let rules ← g.required? "rules"
    let category ← g.required? "category" >>= fun token => Category.ofToken? token.toList
    let values ← (g.values "value").mapM readPair?
    pure (.verify rules category values))
  | "api" => some (⟨[], ["rules", "payload", "content-type", "json-schema"]⟩, fun g => do
    let rules ← g.required? "rules"
    let payload ← (g.path? "payload").join
    let contentType ← g.single? "content-type"
    let schema ← g.path? "json-schema"
    pure (.api rules payload (contentType.getD "application/json") schema))
  | _ => none

/-- The meaning of a list of arguments. An option behind the command counts more than one in front
    of it. -/
def Line.ofArguments? (arguments : List String) : Option Line := do
  let (before, rest) ← readOptions? shared arguments
  match rest with
  | [] => none
  | name :: arguments =>
    let (own, meaning) ← command? name
    let (behind, rest) ← readOptions? (shared.and own) arguments
    if !rest.isEmpty || 1 < before.flags.length || 1 < behind.flags.length then none
    else
      let first ← before.path? "config"
      let second ← behind.path? "config"
      let action ← meaning behind
      pure ⟨second.or first, !before.flags.isEmpty || !behind.flags.isEmpty, action⟩

/-- The paths of the files that a command line names. -/
def Line.paths (line : Line) : List String :=
  line.config.toList ++
    match line.action with
    | .api _ payload _ schema => payload :: schema.toList
    | _ => []

end RuleVerify.Command
