import RuleVerify.Report

namespace RuleVerify

/-- Why a run stops without a report. -/
inductive Error where
  /-- Some expressions of a verification did not hold; all of them are listed. -/
  | verificationFailed (category : Category) (failures : List Failure)
  | config (reason : String)
  | schema (reason : String)
  | capture (reason : String)
deriving DecidableEq, Repr

def Error.message : Error → String
  | .verificationFailed category failures =>
    category.token ++ " verification failed: " ++ failures.length.repr ++
      " expression(s) evaluated false" ++
      String.join (failures.map fun failure => "\n  - " ++ failure.display)
  | .config reason => "configuration error: " ++ reason
  | .schema reason => "schema validation error: " ++ reason
  | .capture reason => "runtime value capture failed: " ++ reason

/-- The category that a token names. -/
def Category.ofToken (token : String) : Except Error Category :=
  match Category.ofToken? token.toList with
  | some category => .ok category
  | none => .error (.config ("unknown verification category '" ++ token ++ "'"))

end RuleVerify
