import RuleVerify.Category
import RuleVerify.Verdict

namespace RuleVerify

/-- An expression after substitution that did not hold, with the reason if it was broken. -/
structure Failure where
  expression : String
  error : Option String
deriving DecidableEq, Repr

def Failure.display (failure : Failure) : String :=
  match failure.error with
  | some reason => failure.expression ++ " [evaluation error: " ++ reason ++ "]"
  | none => failure.expression

/-- An expression after substitution and what its evaluation said. -/
structure Outcome where
  expression : String
  verdict : Verdict
deriving DecidableEq, Repr

namespace Outcome

def passed (outcome : Outcome) : Bool := outcome.verdict.isTrue

def failure? (outcome : Outcome) : Option Failure :=
  match outcome.verdict with
  | .holds => none
  | .fails => some ⟨outcome.expression, none⟩
  | .broken reason => some ⟨outcome.expression, some reason⟩

end Outcome

/-- The outcomes of one verification, in evaluation order. -/
structure Report where
  category : Category
  outcomes : List Outcome
deriving DecidableEq, Repr

namespace Report

/-- The report of a category without rules. -/
def empty (category : Category) : Report := ⟨category, []⟩

def passed (report : Report) : Bool := report.outcomes.all Outcome.passed

def failures (report : Report) : List Failure := report.outcomes.filterMap Outcome.failure?

end Report

end RuleVerify
