namespace RuleVerify

/-- What the evaluation of a rule expression says. A broken expression fails its rule as a false
    one does, and keeps the reason. -/
inductive Verdict where
  | holds
  | fails
  | broken (reason : String)
deriving DecidableEq, Repr

namespace Verdict

def ofBool (b : Bool) : Verdict := if b then holds else fails

def isTrue : Verdict → Bool
  | holds => true
  | _ => false

end Verdict

/-- Evaluates expressions after substitution. -/
abbrev BooleanEvaluator := String → Verdict

/-- The truth value of an expression, in which broken counts as false. -/
def BooleanEvaluator.bool (evaluate : BooleanEvaluator) (expression : String) : Bool :=
  (evaluate expression).isTrue

/-- Runs a query over a payload. The answer is empty when nothing matches, or when one of the two
    is malformed. -/
abbrev QueryEvaluator := String → String → String

end RuleVerify
