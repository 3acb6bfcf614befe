import RuleVerify.Main
import RuleVerify.Proofs.Definition.Concatenation
import RuleVerify.Proofs.Definition.Layout
import RuleVerify.Proofs.Verifier.Response
import RuleVerify.Proofs.Verifier.TextComparison
import RuleVerify.Proofs.Verifier.Calls
import RuleVerify.Proofs.Definition.Acceptance
import RuleVerify.Proofs.Verifier.Stored
import RuleVerify.Proofs.Verifier.Relevance
import RuleVerify.Proofs.Collection.Growth
import RuleVerify.Proofs.Command.ExitCode
import RuleVerify.Proofs.Definition.Clean
import RuleVerify.Proofs.Config.Overrides
import RuleVerify.Proofs.Verifier.Message
import RuleVerify.Proofs.Template.Stability
import RuleVerify.Proofs.Sandbox.Terminator
import RuleVerify.Proofs.Collection.Display
import RuleVerify.Proofs.Sandbox.Vocabulary
import RuleVerify.Proofs.Text.Spacing
import RuleVerify.Proofs.Saved.Collection
import RuleVerify.Proofs.Library
