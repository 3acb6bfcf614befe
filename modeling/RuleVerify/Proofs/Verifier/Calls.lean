import Mathlib.Data.List.Forall2
import RuleVerify.Proofs.Collection
import RuleVerify.Proofs.Verifier.Outcomes

namespace RuleVerify

/-- An evaluator or a source of values is asked for something. -/
def Event.isCall : Event → Bool
  | .captureAsked | .queryAsked _ _ | .evaluated _ _ => true
  | _ => false

/-- What was asked, in order, with the verdicts that were given. -/
def Traced.calls {α : Type} (t : Traced α) : List Event := t.events.filter Event.isCall

/-- The evaluation that an outcome comes from. -/
def Outcome.call (outcome : Outcome) : Event := .evaluated outcome.expression outcome.verdict

private theorem Outcome.filter_isCall_events (outcomes : List Outcome) :
    (outcomes.flatMap Outcome.events).filter Event.isCall = outcomes.map Outcome.call := by
  induction outcomes with
  | nil => rfl
  | cons outcome outcomes ih =>
    rw [List.flatMap_cons, List.filter_append, ih]
    rfl

/-- Every rule is asked for, in order and whatever the others gave. -/
theorem calls_verifyAll (evaluate : BooleanEvaluator) (values : Values) (rules : List String)
    (category : Category) :
    (verifyAll evaluate values rules category).calls =
      (ruleOutcomes evaluate values rules).map Outcome.call := by
  rw [Traced.calls, verifyAll_eq, List.filter_append, Outcome.filter_isCall_events]
  exact List.append_nil _

/-- A failure says what came of an outcome that does not hold. It has a reason, which may be empty,
    exactly when the evaluation broke. -/
structure Failure.Of (outcome : Outcome) (failure : Failure) : Prop where
  expression_eq : failure.expression = outcome.expression
  error_eq_some_iff : ∀ reason, failure.error = some reason ↔ outcome.verdict = .broken reason
  error_eq_none_iff : failure.error = none ↔ outcome.verdict = .fails

/-- The failure of an outcome is what the report keeps of it. -/
theorem Failure.of_iff {outcome : Outcome} {failure : Failure} :
    failure.Of outcome ↔ outcome.failure? = some failure := by
  obtain ⟨expression, verdict⟩ := outcome
  obtain ⟨expression', error⟩ := failure
  constructor
  · rintro ⟨rfl, hsome, hnone⟩
    cases verdict with
    | holds =>
      cases error with
      | none => simp at hnone
      | some reason => simpa using hsome reason
    | fails =>
      have herror : error = none := hnone.mpr rfl
      rw [herror]
      rfl
    | broken reason =>
      have herror : error = some reason := (hsome reason).mpr rfl
      rw [herror]
      rfl
  · intro hfailure
    cases verdict with
    | holds => cases hfailure
    | fails =>
      cases hfailure
      exact ⟨rfl, by simp, by simp⟩
    | broken reason =>
      cases hfailure
      exact ⟨rfl, by simp, by simp⟩

/-- The failures of a row of outcomes are those of the outcomes that do not hold, in order. -/
theorem forall₂_of_iff {outcomes : List Outcome} {failures : List Failure} :
    List.Forall₂ (fun outcome failure => Failure.Of outcome failure)
        (outcomes.filter fun outcome => outcome.verdict ≠ .holds) failures ↔
      failures = outcomes.filterMap Outcome.failure? := by
  induction outcomes generalizing failures with
  | nil => simp
  | cons outcome outcomes ih =>
    have hholds : outcome.failure? = none ↔ outcome.verdict = .holds := by
      rw [Outcome.failure?_eq_none_iff, Outcome.passed_iff]
    cases hfailure : outcome.failure? with
    | none =>
      have hskip : outcome.verdict = .holds := hholds.mp hfailure
      rw [List.filter_cons_of_neg (by simp [hskip]), List.filterMap_cons_none hfailure, ih]
    | some failure =>
      have hnot : outcome.verdict ≠ .holds := by
        intro hverdict
        rw [hholds.mpr hverdict] at hfailure
        cases hfailure
      rw [List.filter_cons_of_pos (by simpa using hnot), List.filterMap_cons_some hfailure,
        List.forall₂_cons_left_iff]
      constructor
      · rintro ⟨other, rest, hother, hrest, rfl⟩
        rw [Failure.of_iff, hfailure] at hother
        rw [ih.mp hrest, Option.some.inj hother]
      · rintro rfl
        exact ⟨failure, _, Failure.of_iff.mpr hfailure, ih.mpr rfl, rfl⟩

/-- A report is turned into an error exactly when an outcome does not hold, and the error has one
    failure for each such outcome. -/
theorem Report.result_eq_error_iff_of {category : Category} {outcomes : List Outcome} {e : Error} :
    Report.result ⟨category, outcomes⟩ = .error e ↔
      ∃ failures, failures ≠ [] ∧ e = .verificationFailed category failures ∧
        List.Forall₂ (fun outcome failure => Failure.Of outcome failure)
          (outcomes.filter fun outcome => outcome.verdict ≠ .holds) failures := by
  simp only [forall₂_of_iff]
  rw [Report.result_eq_error_iff]
  constructor
  · rintro ⟨hfailures, he⟩
    exact ⟨_, hfailures, he, rfl⟩
  · rintro ⟨failures, hfailures, he, rfl⟩
    exact ⟨hfailures, he⟩

/-- A run that returns the report of all outcomes of a row if they hold, and otherwise the failures
    of those that do not. -/
structure Judged (category : Category) (outcomes : List Outcome)
    (t : Traced (Except Error Report)) : Prop where
  value_eq_ok_iff : ∀ report, t.value = .ok report ↔
    (∀ outcome ∈ outcomes, outcome.verdict = .holds) ∧ report = ⟨category, outcomes⟩
  value_eq_error_iff : ∀ e, t.value = .error e ↔
    ∃ failures, failures ≠ [] ∧ e = .verificationFailed category failures ∧
      List.Forall₂ (fun outcome failure => Failure.Of outcome failure)
        (outcomes.filter fun outcome => outcome.verdict ≠ .holds) failures

/-- A run that ends with the result of its outcomes is judged by them. -/
theorem Judged.of_result {category : Category} {outcomes : List Outcome}
    {t : Traced (Except Error Report)} (hvalue : t.value = Report.result ⟨category, outcomes⟩) :
    Judged category outcomes t := by
  refine ⟨?_, ?_⟩
  · intro report
    rw [hvalue, Report.result_eq_ok_iff, Report.passed_iff]
  · intro e
    rw [hvalue, Report.result_eq_error_iff_of]

/-- A run that is judged by its outcomes and asks for every one of them, in order. -/
structure AllAsked (category : Category) (outcomes : List Outcome)
    (t : Traced (Except Error Report)) : Prop extends Judged category outcomes t where
  calls_eq : t.calls = outcomes.map Outcome.call

/-- A run that asks for its outcomes and ends with their result has asked for all. -/
theorem AllAsked.of_result {category : Category} {outcomes : List Outcome}
    {t : Traced (Except Error Report)} (hcalls : t.calls = outcomes.map Outcome.call)
    (hvalue : t.value = Report.result ⟨category, outcomes⟩) : AllAsked category outcomes t :=
  ⟨Judged.of_result hvalue, hcalls⟩

/-- A batch of rules asks for all of them, with or without values. -/
theorem allAsked_verifyAll (evaluate : BooleanEvaluator) (values : Values) (rules : List String)
    (category : Category) :
    AllAsked category (ruleOutcomes evaluate values rules)
      (verifyAll evaluate values rules category) := by
  apply AllAsked.of_result (calls_verifyAll evaluate values rules category)
  rw [verifyAll_eq]

namespace Verifier

variable {v : Verifier} {c : Collection} {category : Category}

/-- The rules that are found for the category are asked for, and nothing else. -/
theorem calls_verify (v : Verifier) (c : Collection) (values : Values) (category : Category) :
    (v.verify c values category).calls =
      (ruleOutcomes v.boolean values (c.rules category)).map Outcome.call := by
  cases hentity : c.entity? category with
  | none =>
    rw [verify, Collection.rules, hentity]
    rfl
  | some entity =>
    have hcalls := calls_verifyAll v.boolean values entity.rules category
    rw [verify, Collection.rules, hentity]
    exact hcalls

private theorem allAsked_verify (v : Verifier) (c : Collection) (values : Values)
    (category : Category) :
    AllAsked category (ruleOutcomes v.boolean values (c.rules category))
      (v.verify c values category) :=
  AllAsked.of_result (v.calls_verify c values category) (v.value_verify c values category)

private theorem verifyCaptured_of_none (hentity : c.entity? category = none)
    (source : ValueSource) :
    v.verifyCaptured c category source =
      ⟨.ok (.empty category), [.nothingToCapture category]⟩ := by
  rw [verifyCaptured, hentity]
  rfl

private theorem verifyCaptured_error {entity : Entity} (hentity : c.entity? category = some entity)
    (e : Error) : v.verifyCaptured c category (.error e) = ⟨.error e, [.captureAsked]⟩ := by
  rw [verifyCaptured, hentity]
  rfl

private theorem verifyCaptured_ok {entity : Entity} (hentity : c.entity? category = some entity)
    (values : Values) :
    v.verifyCaptured c category (.ok values) =
      ⟨(v.verify c values category).value, .captureAsked :: .captured category values.size ::
        (v.verify c values category).events⟩ := by
  rw [verifyCaptured, hentity]
  rfl

/-- All three ways to verify a row of rules ask for every one of them. Where no entity has the
    category nobody is asked, and the report is empty; otherwise the rules are those of its first
    entity. A source is asked once and first; what it cannot capture is the error of the run, before
    any rule is evaluated. -/
theorem verifications_ask_all :
    (∀ (evaluate : BooleanEvaluator) (values : Values) (rules : List String) (category : Category),
      AllAsked category (ruleOutcomes evaluate values rules)
        (verifyAll evaluate values rules category)) ∧
    ∀ (v : Verifier) (c : Collection) (category : Category),
      (category ∉ c.categories ∧
        (∀ values, (v.verify c values category).value = .ok ⟨category, []⟩ ∧
          (v.verify c values category).calls = []) ∧
        ∀ source, (v.verifyCaptured c category source).value = .ok ⟨category, []⟩ ∧
          (v.verifyCaptured c category source).calls = []) ∨
      ∃ entity, c.First category entity ∧
        (∀ values, AllAsked category (ruleOutcomes v.boolean values entity.rules)
          (v.verify c values category)) ∧
        (∀ e, (v.verifyCaptured c category (.error e)).value = .error e ∧
          (v.verifyCaptured c category (.error e)).calls = [.captureAsked]) ∧
        ∀ values,
          (v.verifyCaptured c category (.ok values)).value = (v.verify c values category).value ∧
          (v.verifyCaptured c category (.ok values)).calls =
            .captureAsked :: (v.verify c values category).calls := by
  refine ⟨allAsked_verifyAll, ?_⟩
  intro v c category
  cases hentity : c.entity? category with
  | none =>
    have hrules : c.rules category = [] := by rw [Collection.rules, hentity]; rfl
    refine .inl ⟨Collection.entity?_eq_none_iff.mp hentity, ?_, ?_⟩
    · intro values
      rw [value_verify, calls_verify, hrules]
      exact ⟨rfl, rfl⟩
    · intro source
      rw [verifyCaptured_of_none hentity]
      exact ⟨rfl, rfl⟩
  | some entity =>
    have hrules : c.rules category = entity.rules := by rw [Collection.rules, hentity]; rfl
    refine .inr ⟨entity, Collection.entity?_eq_some_iff.mp hentity, ?_, ?_, ?_⟩
    · intro values
      rw [← hrules]
      exact v.allAsked_verify c values category
    · intro e
      rw [verifyCaptured_error hentity]
      exact ⟨rfl, rfl⟩
    · intro values
      rw [verifyCaptured_ok hentity]
      exact ⟨rfl, rfl⟩

end Verifier

end RuleVerify
