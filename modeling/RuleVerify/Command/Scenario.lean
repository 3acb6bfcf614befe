import RuleVerify.Command.Line
import RuleVerify.Config
import RuleVerify.Definition
import RuleVerify.Engine
import RuleVerify.Schema.Validator
import RuleVerify.Session

namespace RuleVerify.Command

open Session (say sayAll trace attempt)

/-- The configuration of the scenarios, which names its library by an address. -/
def scenarioConfig : Config where
  delimiters := .default
  libraries := ["https://cdn.jsdelivr.net/lodash/4.17.4/lodash.min.js"]
  alertsAutoConfirm := true

def commonRules : String :=
  "UI_COMMON:  _.includes(\"$\x7bStatus:\x7d\", \"DONE\");  " ++
    "!_.includes(\"$\x7bSomeField:\x7d\", \"DONE\")"

def alertRules : String := "UI_ALERT:  _.includes(\"$\x7bALERT_MSG\x7d\", \"TestMePlease\")"

def xmlRules : String :=
  "API_RESPONSE:  _.includes(\"$\x7b/Response/description\x7d\", \"Valid response\")"

def jsonRules : String :=
  "API_RESPONSE:  _.includes(\"$\x7b$.description\x7d\", \"Valid response\");  " ++
    "_.eq(\"$\x7b$.node1\x7d\", \"1\")"

def xmlPayload : String :=
  "<Response>\n    <node1>1</node1>\n    <description>Valid response</description>\n</Response>"

def jsonPayload : String := "\x7b\"node1\": \"1\", \"description\": \"Valid response\"\x7d"

def brokenPayload : String := "\x7b\"node1\": \"2\", \"description\": \"InValid\"\x7d"

/-- Both texts of a response are required. -/
def responseSchema : Schema.Validator where
  id := "demo-response-v1"
  document :=
    let text : Json.Value := .object [("type", .string "string")]
    .object
      [("properties", .object [("description", text), ("node1", text)]),
       ("required", .array [.string "node1", .string "description"]),
       ("type", .string "object")]

/-- The lines of a report of a verification that passed. -/
def passedLines (stamp : Stamp) (report : Report) : List String :=
  ("  Verification: PASS (" ++ report.outcomes.length.repr ++ " expression(s), id " ++ stamp.id ++
    ")") :: report.outcomes.map fun outcome => "    ok  " ++ outcome.expression

/-- Prints a report, or stops with its failure. -/
def showReport (stamp : Stamp) (result : Traced (Except Error Report)) : Session Unit := do
  let report ← attempt stamp result
  sayAll (passedLines stamp report)

/-- Prints the failures of a verification that should fail. Any other error stops. -/
def showFailure (stamp : Stamp) (result : Traced (Except Error Report)) : Session Unit := do
  match ← trace stamp result with
  | .error (.verificationFailed _ failures) =>
    say "  Verification: FAIL (expected)"
    sayAll (failures.map fun failure => "    err " ++ failure.display)
  | .error e => Session.ofExcept (.error e)
  | .ok report =>
    say ("  UNEXPECTED: passed " ++ report.outcomes.length.repr ++ " expression(s)")

/-- The name under which the text of a dialog is captured. -/
def alertName : String := "ALERT_MSG"

def runCommon (stamp : Nat → Stamp) : Session Unit := do
  say "=== Scenario 1: UI_COMMON soft assertions ==="
  say ""
  say ("  Rules: " ++ commonRules)
  let verifier ← trace (stamp 0) (Verifier.ofLibraries scenarioConfig.libraries)
  let rules ← trace (stamp 0) (Definition.read scenarioConfig.delimiters commonRules)
  say "  Values: Status: = DONE, SomeField: = TestMe"
  let passing := Values.ofList [("Status:", "DONE"), ("SomeField:", "TestMe")]
  showReport (stamp 0) (verifier.verify rules passing .uiCommon)
  say "  Values: Status: = QWE, SomeField: = DONE"
  let failing := Values.ofList [("Status:", "QWE"), ("SomeField:", "DONE")]
  showFailure (stamp 1) (verifier.verify rules failing .uiCommon)
  say ""

def runAlert (stamp : Nat → Stamp) : Session Unit := do
  say "=== Scenario 2: UI_ALERT captured from the UI layer ==="
  say ""
  say ("  Rules: " ++ alertRules)
  let verifier ← trace (stamp 0) (Verifier.ofLibraries scenarioConfig.libraries)
  let rules ← trace (stamp 0) (Definition.read scenarioConfig.delimiters alertRules)
  let source (text : String) : ValueSource := .ok (Values.ofList [(alertName, text)])
  say "  Alert text: \"TestMePlease\""
  showReport (stamp 0) (verifier.verifyCaptured rules .uiAlert (source "TestMePlease"))
  say "  Alert text: \"Something\\n   else\""
  showFailure (stamp 1) (verifier.verifyCaptured rules .uiAlert (source "Something\n   else"))
  if scenarioConfig.alertsAutoConfirm then
    say "  Alert would be confirmed by the UI layer (alerts_auto_confirm = true)"
  say ""

def runResponse (stamp : Nat → Stamp) : Session Unit := do
  say "=== Scenario 3: API_RESPONSE via XPath and JSONPath ==="
  say ""
  let verifier ← trace (stamp 0) (Verifier.ofLibraries scenarioConfig.libraries)
  say ("  XML rules: " ++ xmlRules)
  let rules ← trace (stamp 0) (Definition.read scenarioConfig.delimiters xmlRules)
  showReport (stamp 0) (verifier.verifyResponse xmlPayload "application/xml" rules)
  let rules ← trace (stamp 1) (Definition.read scenarioConfig.delimiters jsonRules)
  say ("  JSON rules: " ++ jsonRules)
  attempt (stamp 1) (responseSchema.validate jsonPayload)
  say ("  Schema:  PASS (" ++ responseSchema.id ++ ")")
  showReport (stamp 1) (verifier.verifyResponse jsonPayload "application/json" rules)
  say ("  JSON payload: " ++ brokenPayload)
  attempt (stamp 2) (responseSchema.validate brokenPayload)
  showFailure (stamp 2)
    (verifier.verifyResponse brokenPayload "application/json; charset=utf-8" rules)
  say ""

def Scenario.session (stamp : Nat → Stamp) : Scenario → Session Unit
  | .uiCommon => runCommon stamp
  | .uiAlert => runAlert stamp
  | .apiResponse => runResponse stamp

/-- All scenarios in a row, each with stamps of its own. -/
def runAll (stamp : Nat → Stamp) : Session Unit := do
  Scenario.uiCommon.session stamp
  Scenario.uiAlert.session fun n => stamp (n + 2)
  Scenario.apiResponse.session fun n => stamp (n + 4)
  say "All scenarios completed successfully."

end RuleVerify.Command
