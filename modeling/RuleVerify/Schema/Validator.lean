import RuleVerify.Error
import RuleVerify.Event
import RuleVerify.Schema.Document
import RuleVerify.Text.Blank

namespace RuleVerify.Schema

open Json (Value)

/-- A document that is a schema. -/
structure Validator where
  id : String
  document : Value

/-- Why a text gives no validator. -/
inductive Fault where
  | malformed
  | invalid (id : String)

def Fault.reason : Fault → String
  | malformed => "failed to parse JSON Schema: malformed document"
  | invalid id => "invalid JSON Schema document '" ++ id ++ "': a keyword has the wrong form"

def Fault.error (fault : Fault) : Error := .config fault.reason

namespace Validator

def ofText (id text : String) : Except Error Validator :=
  match Value.ofText? text with
  | none => .error Fault.malformed.error
  | some document =>
    if isSchema document then .ok ⟨id, document⟩ else .error (Fault.invalid id).error

/-- A payload that is no JSON text. -/
def malformedPayload : Error := .schema "payload is not valid JSON: malformed document"

/-- Everything that is wrong with a payload, in one error. -/
def rejection (id : String) (vs : List Violation) : Error :=
  .schema (id ++ ": " ++ String.intercalate "; " (vs.map Violation.message))

/-- Validates a payload. A blank one has nothing that could be wrong. -/
def validate (validator : Validator) (payload : String) : Traced (Except Error Unit) :=
  if Text.allBlank payload.toList then ⟨.ok (), [.schemaSkipped validator.id]⟩
  else
    match Value.ofText? payload with
    | none => pure (.error malformedPayload)
    | some v =>
      match violations validator.document v with
      | [] => ⟨.ok (), [.schemaSatisfied validator.id]⟩
      | vs => ⟨.error (rejection validator.id vs), [.schemaViolated validator.id vs.length]⟩

end Validator

end RuleVerify.Schema
