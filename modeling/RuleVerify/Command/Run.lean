import RuleVerify.Command.Scenario
import RuleVerify.Log

namespace RuleVerify.Command

open Session (say sayAll trace attempt)

/-- What a command line finds around it. -/
structure Surroundings where
  /-- The value of an environment variable. -/
  setting : String → Option String
  /-- The text of a file, or why it cannot be read. -/
  file : String → Except String String
  /-- The stamps of the verifications of a run. -/
  stamp : Nat → Stamp

/-- The text of a file that a command line names. -/
def Surroundings.read (s : Surroundings) (path : String) : Except Error String :=
  match s.file path with
  | .ok text => .ok text
  | .error cause => .error (.config ("failed to read '" ++ path ++ "': " ++ cause))

/-- The configuration of a file, or the default one where no file is named. -/
def Surroundings.baseConfig (s : Surroundings) : Option String → Except Error Config
  | none => .ok .default
  | some path =>
    match s.file path with
    | .ok text => Config.ofToml text
    | .error cause => .error (Config.Fault.unreadable path cause).error

/-- The configuration under the overrides of the environment. -/
def Surroundings.config (s : Surroundings) (path : Option String) : Session Config := do
  let base ← Session.ofExcept (s.baseConfig path)
  attempt (s.stamp 0) (base.resolve s.setting)

/-- Prints a report as text or as JSON, or stops with its failure. -/
def printReport (json : Bool) (stamp : Stamp) (result : Traced (Except Error Report)) :
    Session Unit :=
  if json then do
    let report ← attempt stamp result
    say ((report.toJson stamp).renderPretty "")
  else showReport stamp result

def verify (s : Surroundings) (config : Option String) (json : Bool) (rules : String)
    (category : Category) (values : Values) : Session Unit := do
  let c ← s.config config
  let collection ← trace (s.stamp 0) (Definition.read c.delimiters rules)
  let verifier ← trace (s.stamp 0) (Verifier.ofLibraries c.libraries)
  printReport json (s.stamp 0) (verifier.verify collection values category)

/-- Validates a payload by the schema in a file. -/
def validate (s : Surroundings) (path payload : String) : Session Unit := do
  let text ← Session.ofExcept (s.read path)
  let validator ← Session.ofExcept (Schema.Validator.ofText path text)
  attempt (s.stamp 0) (validator.validate payload)
  trace (s.stamp 0) (.note (.payloadConforms path))

def api (s : Surroundings) (config : Option String) (json : Bool)
    (rules path contentType : String) (schema : Option String) : Session Unit := do
  let c ← s.config config
  let payload ← Session.ofExcept (s.read path)
  match schema with
  | some path => validate s path payload
  | none => pure ()
  let collection ← trace (s.stamp 0) (Definition.read c.delimiters rules)
  let verifier ← trace (s.stamp 0) (Verifier.ofLibraries c.libraries)
  printReport json (s.stamp 0) (verifier.verifyResponse payload contentType collection)

def Line.session (s : Surroundings) (line : Line) : Session Unit :=
  match line.action with
  | .runAll => runAll s.stamp
  | .run scenario => scenario.session s.stamp
  | .verify rules category values =>
    verify s line.config line.json rules category (Values.ofList values)
  | .api rules payload contentType schema =>
    api s line.config line.json rules payload contentType schema

/-- What a run leaves. -/
structure Output where
  exitCode : Nat
  out : String
  err : String
deriving DecidableEq, Repr

/-- The environment variable that holds the filter of the log. -/
def filterName : String := "RUST_LOG"

/-- The text of a line, if it is to be shown. -/
def lineText? (filter : Log.Filter) : SessionLine → Option String
  | .printed text => some text
  | .noted stamp event => Log.line? filter stamp.id stamp.time event

/-- The output of a session. An error goes to the error stream. -/
def output (filter : Log.Filter) (session : Session Unit) : Output :=
  let out := String.join ((session.lines.filterMap (lineText? filter)).map (· ++ "\n"))
  match session.result with
  | .ok () => ⟨0, out, ""⟩
  | .error e => ⟨1, out, e.message ++ "\n"⟩

/-- The exit code of a usage error. -/
def usageCode : Nat := 2

def usage : String :=
  "usage: [--config FILE] [--json] run-all | ui-common | ui-alert | api-response\n" ++
    "       [--config FILE] [--json] verify --rules RULES --category CATEGORY " ++
    "[--value KEY=VALUE]...\n" ++
    "       [--config FILE] [--json] api --rules RULES --payload FILE [--content-type TYPE] " ++
    "[--json-schema FILE]\n"

/-- Runs a list of arguments. -/
def run (s : Surroundings) (arguments : List String) : Output :=
  match Line.ofArguments? arguments with
  | none => ⟨usageCode, "", usage⟩
  | some line => output (Log.Filter.ofSetting (s.setting filterName)) (line.session s)

end RuleVerify.Command
