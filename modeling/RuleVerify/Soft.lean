import RuleVerify.Error
import RuleVerify.Event
import RuleVerify.Template

namespace RuleVerify

/-- The outcomes recorded so far. -/
structure SoftAssertions where
  report : Report

namespace SoftAssertions

def new (category : Category) : SoftAssertions := ⟨.empty category⟩

def record (s : SoftAssertions) (expression : String) (verdict : Verdict) : Traced SoftAssertions :=
  ⟨⟨{ s.report with outcomes := s.report.outcomes ++ [⟨expression, verdict⟩] }⟩,
    [.recorded expression verdict]⟩

/-- Closes the batch. It fails with all failures in record order, if there are any. -/
def finish (s : SoftAssertions) : Traced (Except Error Report) :=
  let failures := s.report.failures
  ⟨if failures.isEmpty then .ok s.report
    else .error (.verificationFailed s.report.category failures),
    [.verificationEnded s.report.category s.report.outcomes.length failures.length]⟩

end SoftAssertions

/-- Asks the evaluator for the verdict of an expression. -/
def BooleanEvaluator.ask (evaluate : BooleanEvaluator) (expression : String) : Traced Verdict :=
  ⟨evaluate expression, [.evaluated expression (evaluate expression)]⟩

/-- Substitutes the values into one expression, evaluates and records it. -/
def verifyOne (evaluate : BooleanEvaluator) (values : Values) (s : SoftAssertions)
    (expression : String) : Traced SoftAssertions := do
  let substituted := Template.substitute values expression
  let verdict ← evaluate.ask substituted
  s.record substituted verdict

/-- Verifies every expression and fails once at the end if one of them did not hold. -/
def verifyAll (evaluate : BooleanEvaluator) (values : Values) (expressions : List String)
    (category : Category) : Traced (Except Error Report) := do
  let s ← expressions.foldlM (verifyOne evaluate values) (.new category)
  s.finish

end RuleVerify
