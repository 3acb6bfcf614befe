import RuleVerify.Verifier

namespace RuleVerify

/-- What the evaluation of an expression gives. -/
def BooleanEvaluator.outcome (evaluate : BooleanEvaluator) (expression : String) : Outcome :=
  ⟨expression, evaluate expression⟩

/-- A report without a failure is returned. All failures together make the error. -/
def Report.result (report : Report) : Except Error Report :=
  if report.passed then .ok report
  else .error (.verificationFailed report.category report.failures)

/-- An expression is evaluated and then recorded. -/
def Outcome.events (outcome : Outcome) : List Event :=
  [.evaluated outcome.expression outcome.verdict, .recorded outcome.expression outcome.verdict]

/-- An outcome passes only if its expression holds; a broken one does not. -/
theorem Outcome.passed_iff {outcome : Outcome} :
    outcome.passed = true ↔ outcome.verdict = .holds := by
  rw [passed]
  cases outcome.verdict <;> simp [Verdict.isTrue]

/-- A report passes exactly when every outcome holds. A report without outcomes does. -/
theorem Report.passed_iff {report : Report} :
    report.passed = true ↔ ∀ outcome ∈ report.outcomes, outcome.verdict = .holds := by
  simp only [passed, List.all_eq_true, Outcome.passed_iff]

/-- An outcome is no failure exactly when it passes. -/
theorem Outcome.failure?_eq_none_iff {outcome : Outcome} :
    outcome.failure? = none ↔ outcome.passed = true := by
  unfold failure? passed
  cases outcome.verdict <;> simp [Verdict.isTrue]

theorem Report.isEmpty_failures (report : Report) : report.failures.isEmpty = report.passed := by
  rw [Bool.eq_iff_iff, List.isEmpty_iff, failures, List.filterMap_eq_nil_iff, passed,
    List.all_eq_true]
  simp only [Outcome.failure?_eq_none_iff]

/-- A report that passes is returned as it is. -/
theorem Report.result_eq_ok_iff {report other : Report} :
    report.result = .ok other ↔ report.passed = true ∧ other = report := by
  rw [result]
  split
  · rename_i hpassed
    simp [hpassed, eq_comm]
  · rename_i hfailed
    simp [hfailed]

/-- A report with failures becomes the error of all of them. -/
theorem Report.result_eq_error_iff {report : Report} {e : Error} :
    report.result = .error e ↔
      report.failures ≠ [] ∧ e = .verificationFailed report.category report.failures := by
  have hnone : report.failures = [] ↔ report.passed = true := by
    rw [← isEmpty_failures, List.isEmpty_iff]
  rw [result, ne_eq, hnone]
  split
  · rename_i hpassed
    simp [hpassed]
  · rename_i hfailed
    simp [hfailed, eq_comm]

/-- The end of a batch counts its outcomes and failures whether it passed or not. -/
theorem SoftAssertions.finish_eq (s : SoftAssertions) :
    s.finish = ⟨s.report.result, [.verificationEnded s.report.category s.report.outcomes.length
      s.report.failures.length]⟩ := by
  simp only [finish, Report.isEmpty_failures]
  rfl

/-- The outcomes of a row of rules under the values of one run. -/
def ruleOutcomes (evaluate : BooleanEvaluator) (values : Values) (rules : List String) :
    List Outcome :=
  rules.map fun rule => evaluate.outcome (Template.substitute values rule)

/-- Every rule adds one outcome, behind those that were recorded before. -/
theorem foldlM_verifyOne (evaluate : BooleanEvaluator) (values : Values) (s : SoftAssertions)
    (rules : List String) :
    rules.foldlM (verifyOne evaluate values) s =
      ⟨⟨s.report.category, s.report.outcomes ++ ruleOutcomes evaluate values rules⟩,
        (ruleOutcomes evaluate values rules).flatMap Outcome.events⟩ := by
  induction rules generalizing s with
  | nil =>
    ext <;> simp [ruleOutcomes]
  | cons rule rules ih =>
    rw [List.foldlM_cons]
    ext
    · simp [ih, ruleOutcomes, verifyOne, SoftAssertions.record, BooleanEvaluator.ask,
        BooleanEvaluator.outcome]
    · simp [ih, ruleOutcomes, verifyOne, SoftAssertions.record, BooleanEvaluator.ask,
        BooleanEvaluator.outcome, Outcome.events]

/-- All rules are evaluated before the batch is closed. -/
theorem verifyAll_eq (evaluate : BooleanEvaluator) (values : Values) (rules : List String)
    (category : Category) :
    let report : Report := ⟨category, ruleOutcomes evaluate values rules⟩
    verifyAll evaluate values rules category =
      ⟨report.result, report.outcomes.flatMap Outcome.events ++
        [.verificationEnded category report.outcomes.length report.failures.length]⟩ := by
  rw [verifyAll, foldlM_verifyOne]
  ext <;> simp [SoftAssertions.finish_eq, SoftAssertions.new, Report.empty]

/-- With an entity at hand a verification notes its beginning, evaluates and records every rule, and
    notes its end. -/
theorem Verifier.verify_eq (v : Verifier) {c : Collection} {category : Category} {entity : Entity}
    (hentity : c.entity? category = some entity) (values : Values) :
    let report : Report := ⟨category, ruleOutcomes v.boolean values entity.rules⟩
    v.verify c values category =
      ⟨report.result, .verificationBegun category entity.rules.length ::
        (report.outcomes.flatMap Outcome.events ++
          [.verificationEnded category report.outcomes.length report.failures.length])⟩ := by
  rw [verify, hentity]
  ext <;> simp [verifyAll_eq]

/-- The result depends on the rules that are found, whether there is an entity or not. -/
theorem Verifier.value_verify (v : Verifier) (c : Collection) (values : Values)
    (category : Category) :
    (v.verify c values category).value =
      Report.result ⟨category, ruleOutcomes v.boolean values (c.rules category)⟩ := by
  cases hentity : c.entity? category with
  | none =>
    rw [verify, Collection.rules, hentity]
    rfl
  | some entity =>
    rw [v.verify_eq hentity, Collection.rules, hentity]
    rfl

end RuleVerify
