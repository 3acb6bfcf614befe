import RuleVerify.JsonPath.Reader
import RuleVerify.Sandbox
import RuleVerify.Verifier
import RuleVerify.XPath.Eval

namespace RuleVerify

/-- The verifier with a sandbox for its rules, and XPath and JSONPath for its queries. -/
def Verifier.ofLibraries (identifiers : List String) : Traced Verifier := do
  let sandbox ← Sandbox.ofLibraries identifiers
  pure ⟨sandbox.evaluate, XPath.evaluate, JsonPath.evaluate⟩

end RuleVerify
