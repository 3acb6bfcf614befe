import RuleVerify.Proofs.Expr.Margin
import RuleVerify.Proofs.Sandbox

namespace RuleVerify

private theorem Verdict.ofBool_inj {b b' : Bool} : Verdict.ofBool b = .ofBool b' ↔ b = b' := by
  cases b <;> cases b' <;> decide

private theorem Verdict.ofBool_ne_broken (b : Bool) (reason : String) :
    ofBool b ≠ .broken reason := by
  cases b <;> simp [ofBool]

private theorem Verdict.isTrue_iff {verdict : Verdict} :
    verdict.isTrue = true ↔ verdict = .ofBool true := by
  cases verdict <;> simp [isTrue, ofBool]

private theorem Text.dropSuffix?_append (cs ending : List Char) :
    dropSuffix? ending (cs ++ ending) = some cs := by
  simp [dropSuffix?]

namespace Sandbox

/-- One semicolon is taken off together with the white space behind it; the white space before it
    stays. -/
theorem stripTerminator_append (cs : List Char) {after : List Char}
    (hafter : Text.allBlank after = true) :
    stripTerminator (cs ++ [';'] ++ after) = Text.trimStart cs := by
  have hsemicolon : Text.allBlank [';'] = false := by decide
  have htrim : Text.trim (cs ++ [';'] ++ after) = Text.trimStart cs ++ [';'] := by
    rw [Text.trim_append_of_blank_right hafter, Text.trim,
      Text.trimStart_append_of_trimStart_eq (by rfl), Text.trimEnd_append_of_not_blank hsemicolon]
    rfl
  rw [stripTerminator, htrim, Text.dropSuffix?_append, Option.getD_some]

/-- A verdict is a truth value exactly when the expression has one. -/
theorem evaluate_eq_ofBool_iff {s : Sandbox} {expression : String} {b : Bool} :
    s.evaluate expression = .ofBool b ↔
      (Expr.evalBoolean s.vocabulary (stripTerminator expression.toList)).toOption = some b := by
  rw [evaluate]
  cases Expr.evalBoolean s.vocabulary (stripTerminator expression.toList) with
  | error fault => simp [Except.toOption, (Verdict.ofBool_ne_broken b fault.message).symm]
  | ok value => simp [Except.toOption, Verdict.ofBool_inj]

/-- White space around an expression and a semicolon behind it change neither whether it has a truth
    value nor which. The reason of a broken one may change, for where half an operator ends the
    expression it names what follows. -/
theorem evaluate_terminated (s : Sandbox) {expression before behind after : String}
    (hend : ¬ [';'] <:+ Text.trim expression.toList) (hbefore : Text.allBlank before.toList = true)
    (hbehind : Text.allBlank behind.toList = true) (hafter : Text.allBlank after.toList = true) :
    let statement := before ++ expression ++ behind ++ ";" ++ after
    (∀ b, s.evaluate statement = .ofBool b ↔ s.evaluate expression = .ofBool b) ∧
      s.evaluate.bool statement = s.evaluate.bool expression := by
  intro statement
  have hstatement : statement.toList =
      before.toList ++ expression.toList ++ behind.toList ++ [';'] ++ after.toList := by
    simp [statement]
  obtain ⟨margin, hmargin, hstart⟩ :=
    Text.exists_trimEnd (Text.trimStart (before.toList ++ expression.toList ++ behind.toList))
  have htrim : Text.trim (before.toList ++ expression.toList ++ behind.toList) =
      Text.trim expression.toList := by
    rw [Text.trim_append_of_blank_right hbehind, Text.trim_append_of_blank_left hbefore]
  rw [← Text.trim, htrim] at hstart
  have hvalue (b : Bool) :
      s.evaluate statement = .ofBool b ↔ s.evaluate expression = .ofBool b := by
    rw [evaluate_eq_ofBool_iff, evaluate_eq_ofBool_iff, hstatement, stripTerminator_append _ hafter,
      hstart, Expr.toOption_evalBoolean_append _ _ hmargin, stripTerminator_of_not_suffix hend]
  refine ⟨hvalue, ?_⟩
  rw [Bool.eq_iff_iff, BooleanEvaluator.bool, BooleanEvaluator.bool, Verdict.isTrue_iff,
    Verdict.isTrue_iff]
  exact hvalue true

/-- An expression that ends in a comment, and one that could go on as a number. -/
theorem evaluate_terminated_unfinished :
    let s := Sandbox.default.value
    ¬ [';'] <:+ Text.trim "1 < 2 // ;!".toList ∧ ¬ [';'] <:+ Text.trim " 1e -".toList ∧
      Text.allBlank "\n".toList = true ∧ Text.allBlank "\t ".toList = true ∧
      s.evaluate "1 < 2 // ;!" = .holds ∧
      s.evaluate.bool "\n1 < 2 // ;!\t ;\n" = s.evaluate.bool "1 < 2 // ;!" ∧
      s.evaluate.bool "\n 1e -\t ;\n" = s.evaluate.bool " 1e -" := by
  intro s
  have hcomment : ¬ [';'] <:+ Text.trim "1 < 2 // ;!".toList := by decide
  have hnumber : ¬ [';'] <:+ Text.trim " 1e -".toList := by decide
  have hbefore : Text.allBlank "\n".toList = true := by decide
  have hbehind : Text.allBlank "\t ".toList = true := by decide
  exact ⟨hcomment, hnumber, hbefore, hbehind, by decide +kernel,
    (s.evaluate_terminated hcomment hbefore hbehind hbefore).2,
    (s.evaluate_terminated hnumber hbefore hbehind hbefore).2⟩

end Sandbox

end RuleVerify
