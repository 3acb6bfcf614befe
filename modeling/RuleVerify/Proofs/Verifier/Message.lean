import RuleVerify.Proofs.Template.Embedding
import RuleVerify.Proofs.Text.Joints
import RuleVerify.Proofs.Verifier.Outcomes

namespace RuleVerify

/-- What the message writes in front of each failure. -/
def failureSeparator : String := "\n  - "

/-- What the message says before the failures. -/
def Category.failureHeader (category : Category) (count : Nat) : String :=
  category.token ++ " verification failed: " ++ count.repr ++ " expression(s) evaluated false"

/-- An expression that does not hold, and behind it why, if it is broken. -/
def BooleanEvaluator.failureText? (evaluate : BooleanEvaluator) (expression : String) :
    Option String :=
  match evaluate expression with
  | .holds => none
  | .fails => some expression
  | .broken reason => some (expression ++ " [evaluation error: " ++ reason ++ "]")

/-- The texts of the failures of a row of rules, in evaluation order. -/
def failureTexts (evaluate : BooleanEvaluator) (values : Values) (rules : List String) :
    List String :=
  rules.filterMap fun rule => evaluate.failureText? (Template.substitute values rule)

/-- No rule holds a line feed, and no reason of the evaluator does. -/
structure SingleLine (evaluate : BooleanEvaluator) (rules : List String) : Prop where
  rule : ∀ rule ∈ rules, '\n' ∉ rule.toList
  reason : ∀ expression reason, evaluate expression = .broken reason → '\n' ∉ reason.toList

variable {evaluate : BooleanEvaluator} {values : Values} {rules : List String}
  {category : Category} {e : Error}

private theorem failureText?_eq (evaluate : BooleanEvaluator) (expression : String) :
    evaluate.failureText? expression =
      (evaluate.outcome expression).failure?.map Failure.display := by
  unfold BooleanEvaluator.failureText? Outcome.failure? BooleanEvaluator.outcome
  cases evaluate expression <;> rfl

private theorem map_display_failures (evaluate : BooleanEvaluator) (values : Values)
    (rules : List String)
    (category : Category) :
    (Report.failures ⟨category, ruleOutcomes evaluate values rules⟩).map Failure.display =
      failureTexts evaluate values rules := by
  simp only [Report.failures, ruleOutcomes, failureTexts, failureText?_eq, List.filterMap_map,
    List.map_filterMap, Function.comp_def]

/-- The message is a header and then the failures, each behind a separator. -/
theorem message_verificationFailed (category : Category) (failures : List Failure) :
    (Error.verificationFailed category failures).message =
      category.failureHeader failures.length ++
        String.join ((failures.map Failure.display).map (failureSeparator ++ ·)) := by
  rw [List.map_map]
  rfl

/-- A verification that fails does so with the texts of its failures behind the header. -/
theorem message_of_verifyAll (hfail : (verifyAll evaluate values rules category).value = .error e) :
    e.message.toList = List.intercalate failureSeparator.toList
      ((category.failureHeader (failureTexts evaluate values rules).length).toList ::
        (failureTexts evaluate values rules).map String.toList) := by
  have hresult : Report.result ⟨category, ruleOutcomes evaluate values rules⟩ = .error e := by
    rw [← hfail, verifyAll_eq]
  obtain ⟨-, rfl⟩ := Report.result_eq_error_iff.mp hresult
  have htexts := map_display_failures evaluate values rules category
  rw [message_verificationFailed, ← List.length_map Failure.display, htexts, Text.intercalate_cons,
    String.toList_append, String.toList_join, List.flatMap_map, List.flatMap_map]
  simp only [String.toList_append]

/-- Rules and reasons on one line make failures on one line, because values bring no line feed with
    them. -/
theorem SingleLine.not_mem_failureTexts (h : SingleLine evaluate rules) {text : String}
    (hmem : text ∈ failureTexts evaluate values rules) : '\n' ∉ text.toList := by
  obtain ⟨rule, hrule, htext⟩ := List.mem_filterMap.mp hmem
  have hexpression : '\n' ∉ (Template.substitute values rule).toList :=
    Template.not_mem_substitute_of_isBlank (by decide) (by decide) (h.rule rule hrule)
  unfold BooleanEvaluator.failureText? at htext
  split at htext
  · cases htext
  · cases htext
    exact hexpression
  · rename_i reason hbroken
    cases htext
    have hreason := h.reason _ reason hbroken
    simp [hexpression, hreason]

/-- The header stands on one line. -/
theorem not_mem_failureHeader (category : Category) (count : Nat) :
    '\n' ∉ (category.failureHeader count).toList := by
  have hcount : '\n' ∉ Nat.toDigits 10 count := by
    intro hmem
    have hdigit := Nat.isDigit_of_mem_toDigits (by decide) (by decide) hmem
    exact absurd hdigit (by decide)
  have htoken : '\n' ∉ category.token.toList := by cases category <;> decide
  simp [Category.failureHeader, hcount, htoken]

/-- The header names its category before the first blank. -/
theorem takeWhile_failureHeader (category : Category) (count : Nat) :
    (category.failureHeader count).toList.takeWhile (· ≠ ' ') = category.token.toList := by
  have hall : category.token.toList.all (· ≠ ' ') = true := by cases category <;> decide
  have htoken := List.all_eq_true.mp hall
  rw [Category.failureHeader, String.toList_append, String.toList_append, String.toList_append,
    List.append_assoc, List.append_assoc, List.takeWhile_append_of_pos htoken]
  simp

/-- The header tells the category, whatever the number of failures. -/
theorem eq_of_failureHeader_eq {first second : Category} {m n : Nat}
    (heq : first.failureHeader m = second.failureHeader n) : first = second := by
  have htoken : first.token.toList = second.token.toList := by
    rw [← takeWhile_failureHeader first m, heq, takeWhile_failureHeader]
  revert htoken
  cases first <;> cases second <;> decide

/-- The message falls apart at its separators into the header and the failures. -/
theorem splitOn_message (hlines : SingleLine evaluate rules)
    (hfail : (verifyAll evaluate values rules category).value = .error e) :
    (Text.splitOn failureSeparator.toList e.message.toList).map String.ofList =
      category.failureHeader (failureTexts evaluate values rules).length ::
        failureTexts evaluate values rules := by
  have hno (count : Nat) : ∀ piece ∈ (category.failureHeader count).toList ::
      (failureTexts evaluate values rules).map String.toList, '\n' ∉ piece := by
    intro piece hmem
    obtain rfl | hmap := List.mem_cons.mp hmem
    · exact not_mem_failureHeader category count
    · obtain ⟨text, htext, rfl⟩ := List.mem_map.mp hmap
      exact hlines.not_mem_failureTexts htext
  have hseparator : failureSeparator.toList = '\n' :: [' ', ' ', '-', ' '] := by decide
  rw [message_of_verifyAll hfail, hseparator,
    Text.splitOn_intercalate_of_not_mem (List.cons_ne_nil _ _) (hno _)]
  simp

/-- The message of a failed verification can be read back: cut at the separators it is the header,
    with the category and the number of failures, and the failures in evaluation order, each the
    expression after substitution and behind it the reason, if it was broken. Two verifications that
    fail with one message are therefore of one category and have the same failures, whatever texts
    in their rules, values and reasons look like separators. -/
theorem verifyAll_message_reads_back (hlines : SingleLine evaluate rules)
    (hfail : (verifyAll evaluate values rules category).value = .error e) :
    (Text.splitOn "\n  - ".toList e.message.toList).map String.ofList =
      (category.token ++ " verification failed: " ++
        (failureTexts evaluate values rules).length.repr ++ " expression(s) evaluated false") ::
      failureTexts evaluate values rules ∧
    ∀ (other : BooleanEvaluator) (values' : Values) (rules' : List String) (category' : Category)
      (e' : Error), SingleLine other rules' →
      (verifyAll other values' rules' category').value = .error e' → e'.message = e.message →
      category' = category ∧
        failureTexts other values' rules' = failureTexts evaluate values rules := by
  have hsplit := splitOn_message hlines hfail
  refine ⟨hsplit, ?_⟩
  intro other values' rules' category' e' hlines' hfail' hmessage
  have hsplit' := splitOn_message hlines' hfail'
  rw [hmessage, hsplit, List.cons.injEq] at hsplit'
  exact ⟨(eq_of_failureHeader_eq hsplit'.1).symm, hsplit'.2.symm⟩

/-- Lets one expression hold and finds short ones broken, for no reason that it tells. -/
def cautious : BooleanEvaluator := fun expression =>
  if expression = "ok" then .holds
  else if expression.toList.length < 4 then .broken ""
  else .fails

/-- A value with a separator in it, a rule that holds, a broken one, and one that fails and reads
    like the broken one. -/
theorem verifyAll_message_reads_back_imitations :
    let values := Values.ofList [("a", "x\n  - y")]
    let rules := ["$\x7ba\x7d  - z", "ok", "or", "or [evaluation error: ]"]
    let e := Error.verificationFailed .uiAlert
      [⟨"x - y  - z", none⟩, ⟨"or", some ""⟩, ⟨"or [evaluation error: ]", none⟩]
    SingleLine cautious rules ∧ (verifyAll cautious values rules .uiAlert).value = .error e ∧
      (Text.splitOn "\n  - ".toList e.message.toList).map String.ofList =
        ["UI_ALERT verification failed: 3 expression(s) evaluated false", "x - y  - z",
          "or [evaluation error: ]", "or [evaluation error: ]"] := by
  intro values rules e
  have hlines : SingleLine cautious rules := by
    refine ⟨by decide, ?_⟩
    intro expression reason hbroken
    unfold cautious at hbroken
    split at hbroken
    · cases hbroken
    · split at hbroken
      · cases hbroken
        decide
      · cases hbroken
  have hfail : (verifyAll cautious values rules .uiAlert).value = .error e := by
    rw [verifyAll_eq]
    exact Report.result_eq_error_iff.mpr ⟨by decide +kernel, by decide +kernel⟩
  have htexts : failureTexts cautious values rules =
      ["x - y  - z", "or [evaluation error: ]", "or [evaluation error: ]"] := by decide +kernel
  refine ⟨hlines, hfail, ?_⟩
  rw [(verifyAll_message_reads_back hlines hfail).1, htexts]
  decide

end RuleVerify
