import RuleVerify.Proofs.Definition.Block
import RuleVerify.Proofs.Verifier.Outcomes

namespace RuleVerify.Definition

variable {d : Delimiters} {category : Category} {block : List Char}

/-- The block has two parts, a token of the category and a body that is not blank. -/
def AcceptedFor (d : Delimiters) (category : Category) (block : List Char) : Prop :=
  ∃ token body, Text.splitOn d.category.toList (Text.trim block) = [token, body] ∧
    Category.ofToken? token = some category ∧ Text.allBlank body = false

/-- A body that is not blank has a rule. -/
theorem bodyRules_ne_nil {body : List Char}
    (hedge : d.rules.toList.head?.any Text.isBlank = true ∨
      d.rules.toList.getLast?.any Text.isBlank = true)
    (hbody : Text.allBlank body = false) : bodyRules d body ≠ [] := by
  obtain ⟨piece, hmem, hpiece⟩ := Text.exists_not_blank_splitOn hedge (Text.tight_trim hbody)
  apply List.ne_nil_of_mem (a := Text.trim piece)
  rw [bodyRules, List.mem_filter]
  exact ⟨List.mem_map_of_mem hmem, by simp [hpiece]⟩

/-- With white space at an end of the rules delimiter an accepted block has a rule: its body is
    trimmed before it is cut, so a row of delimiters cannot use it up. -/
theorem exists_mem_contribution_iff
    (hedge : d.rules.toList.head?.any Text.isBlank = true ∨
      d.rules.toList.getLast?.any Text.isBlank = true) :
    (∃ rule, (category, rule) ∈ contribution d block) ↔ AcceptedFor d category block := by
  constructor
  · rintro ⟨rule, hmem⟩
    obtain ⟨token, body, hsplit, htoken, hbody, -⟩ := mem_contribution_iff.mp hmem
    exact ⟨token, body, hsplit, htoken, hbody⟩
  · rintro ⟨token, body, hsplit, htoken, hbody⟩
    obtain ⟨text, htext⟩ := List.exists_mem_of_ne_nil _ (bodyRules_ne_nil hedge hbody)
    refine ⟨String.ofList text, mem_contribution_iff.mpr ⟨token, body, hsplit, htoken, hbody, ?_⟩⟩
    rwa [String.toList_ofList]

/-- The rules of a category are none exactly when no block is accepted for it, and then, and only
    then, its verification passes without an outcome. The delimiters of types and category may be
    any texts. -/
theorem rules_ne_nil_iff_accepted (d : Delimiters)
    (hedge : d.rules.toList.head?.any Text.isBlank = true ∨
      d.rules.toList.getLast?.any Text.isBlank = true)
    (definition : String) (category : Category) :
    let accepted := ∃ block ∈ Text.splitOn d.types.toList (Text.trim definition.toList),
      AcceptedFor d category block
    ((parse d definition).rules category ≠ [] ↔ accepted) ∧
      ∀ (v : Verifier) (values : Values),
        (∃ report, (v.verify (parse d definition) values category).value = .ok report ∧
          report.outcomes = []) ↔ ¬ accepted := by
  intro accepted
  have hrules : (parse d definition).rules category ≠ [] ↔ accepted := by
    constructor
    · intro hne
      obtain ⟨rule, hrule⟩ := List.exists_mem_of_ne_nil _ hne
      obtain ⟨block, hblock, hmem⟩ := mem_rules_parse_iff.mp hrule
      exact ⟨block, hblock, (exists_mem_contribution_iff hedge).mp ⟨rule, hmem⟩⟩
    · rintro ⟨block, hblock, haccepted⟩
      obtain ⟨rule, hmem⟩ := (exists_mem_contribution_iff hedge).mpr haccepted
      exact List.ne_nil_of_mem (mem_rules_parse_iff.mpr ⟨block, hblock, hmem⟩)
  refine ⟨hrules, ?_⟩
  intro v values
  rw [← hrules, not_not]
  simp only [v.value_verify, Report.result_eq_ok_iff]
  constructor
  · rintro ⟨report, ⟨-, rfl⟩, hnone⟩
    simpa [ruleOutcomes] using hnone
  · intro hnone
    exact ⟨_, ⟨by simp [Report.passed, ruleOutcomes, hnone], rfl⟩, by simp [ruleOutcomes, hnone]⟩

/-- A body of nothing but delimiters has a rule, for the blank behind the last one is trimmed away.
    The second block has no body and leaves nothing to verify. -/
theorem rules_ne_nil_of_delimiters :
    let d : Delimiters := ⟨"|", ":", "; "⟩
    let definition := " ui_alert :; ; ; |UI_ERROR: "
    (d.rules.toList.head?.any Text.isBlank = true ∨
        d.rules.toList.getLast?.any Text.isBlank = true) ∧
      "ui_alert :; ; ; ".toList ∈ Text.splitOn d.types.toList (Text.trim definition.toList) ∧
      AcceptedFor d .uiAlert "ui_alert :; ; ; ".toList ∧
      (parse d definition).rules .uiAlert ≠ [] ∧
      ∀ (v : Verifier) (values : Values), ∃ report,
        (v.verify (parse d definition) values .uiError).value = .ok report ∧
          report.outcomes = [] := by
  intro d definition
  have hedge : d.rules.toList.head?.any Text.isBlank = true ∨
      d.rules.toList.getLast?.any Text.isBlank = true := Or.inr (by decide)
  have hblock : "ui_alert :; ; ; ".toList ∈
      Text.splitOn d.types.toList (Text.trim definition.toList) := by decide
  have haccepted : AcceptedFor d .uiAlert "ui_alert :; ; ; ".toList :=
    ⟨"ui_alert ".toList, "; ; ;".toList, by decide, by decide, by decide⟩
  have hnone : (parse d definition).rules .uiError = [] := by decide +kernel
  have halert := rules_ne_nil_iff_accepted d hedge definition .uiAlert
  have herror := rules_ne_nil_iff_accepted d hedge definition .uiError
  refine ⟨hedge, hblock, haccepted, halert.1.mpr ⟨_, hblock, haccepted⟩, ?_⟩
  intro v values
  apply (herror.2 v values).mpr
  rw [← herror.1, not_not]
  exact hnone

end RuleVerify.Definition
