import RuleVerify.Entity
import RuleVerify.Soft
import RuleVerify.Text.Split

namespace RuleVerify

/-- The evaluators of one configuration. -/
structure Verifier where
  boolean : BooleanEvaluator
  xpath : QueryEvaluator
  jsonPath : QueryEvaluator

/-- Supplies the runtime values of a user interface, or says why it cannot. -/
abbrev ValueSource := Except Error Values

def ValueSource.ask (source : ValueSource) : Traced (Except Error Values) :=
  ⟨source, [.captureAsked]⟩

/-- XPath is meant by every content type that holds `xml` in any case. -/
def QueryLanguage.ofContentType (contentType : String) : QueryLanguage :=
  if Text.occursIn ['x', 'm', 'l'] (Text.toLowerAscii contentType.toList) then .xpath
  else .jsonPath

namespace Verifier

def query (v : Verifier) : QueryLanguage → QueryEvaluator
  | .xpath => v.xpath
  | .jsonPath => v.jsonPath

/-- Verifies the rules of a category. A category without an entity has nothing to verify. -/
def verify (v : Verifier) (c : Collection) (values : Values) (category : Category) :
    Traced (Except Error Report) :=
  match c.entity? category with
  | none => ⟨.ok (.empty category), [.nothingToVerify category]⟩
  | some entity => do
    Traced.note (.verificationBegun category entity.rules.length)
    verifyAll v.boolean values entity.rules category

/-- Asks the source for values, if there is something to verify, and verifies with them. -/
def verifyCaptured (v : Verifier) (c : Collection) (category : Category) (source : ValueSource) :
    Traced (Except Error Report) :=
  if (c.entity? category).isNone then ⟨.ok (.empty category), [.nothingToCapture category]⟩
  else do
    match ← source.ask with
    | .error e => pure (.error e)
    | .ok values => do
      Traced.note (.captured category values.size)
      v.verify c values category

/-- Runs one query over the payload and keeps the answer under the text of the query. A query that
    has its answer is not run again. -/
def addAnswer (v : Verifier) (language : QueryLanguage) (payload : String) (values : Values)
    (query : String) : Traced Values :=
  if values.contains query then pure values
  else
    let answer := v.query language query payload
    ⟨values.insert query answer, [.queryAsked language query, .extracted query answer]⟩

/-- The answers to all placeholders of the rules of an entity, which are queries. -/
def responseValues (v : Verifier) (payload contentType : String) (entity : Entity) :
    Traced Values :=
  (entity.rules.flatMap Template.placeholders).foldlM
    (v.addAnswer (.ofContentType contentType) payload) .empty

/-- Verifies the response rules against a payload. -/
def verifyResponse (v : Verifier) (payload contentType : String) (c : Collection) :
    Traced (Except Error Report) :=
  match c.entity? .apiResponse with
  | none => ⟨.ok (.empty .apiResponse), [.noResponseRules]⟩
  | some entity => do
    Traced.note (.responseBegun contentType entity.rules.length)
    let values ← v.responseValues payload contentType entity
    v.verify c values .apiResponse

end Verifier

end RuleVerify
