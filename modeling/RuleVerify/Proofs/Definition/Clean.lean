import RuleVerify.Proofs.Definition.Block
import RuleVerify.Proofs.Text.Pieces

namespace RuleVerify.Definition

variable {d : Delimiters} {category : Category} {block : List Char} {rule : String}

/-- What a rule keeps of the definition that it comes from. -/
structure Clean (d : Delimiters) (definition : String) (rule : String) : Prop where
  isInfix : rule.toList <:+: definition.toList
  ne_empty : rule ≠ ""
  trim_eq : Text.trim rule.toList = rule.toList
  /-- The empty delimiter alone is part of every rule. -/
  delimiter_free : ∀ delimiter ∈ [d.types, d.category, d.rules], delimiter ≠ "" →
    ¬ delimiter.toList <:+: rule.toList

private theorem mem_bodyRules_iff {body text : List Char} :
    text ∈ bodyRules d body ↔
      text ≠ [] ∧
        ∃ piece ∈ Text.splitOn d.rules.toList (Text.trim body), Text.trim piece = text := by
  rw [bodyRules, List.mem_filter, List.mem_map, and_comm]
  simp

/-- The way from the definition to a rule goes over a block, its body and a piece of that, each a
    part of the one before; the delimiters go one at each cut. -/
theorem clean_of_mem {definition : String} (hblock : block ∈ blocks d definition)
    (hmem : (category, rule) ∈ contribution d block) : Clean d definition rule := by
  obtain ⟨token, body, hsplit, -, -, htext⟩ := mem_contribution_iff.mp hmem
  obtain ⟨hne, piece, hpiece, htrim⟩ := mem_bodyRules_iff.mp htext
  have hbody : body ∈ Text.splitOn d.category.toList (Text.trim block) := by simp [hsplit]
  have hruleInPiece : rule.toList <:+: piece := htrim ▸ Text.trim_isInfix piece
  have hruleInBody : rule.toList <:+: body :=
    (hruleInPiece.trans (Text.isInfix_of_mem_splitOn hpiece)).trans (Text.trim_isInfix body)
  have hruleInBlock : rule.toList <:+: block :=
    (hruleInBody.trans (Text.isInfix_of_mem_splitOn hbody)).trans (Text.trim_isInfix block)
  have hfree (delimiter : String) (part whole : List Char) (hnonempty : delimiter ≠ "")
      (hpart : part ∈ Text.splitOn delimiter.toList whole) (hrule : rule.toList <:+: part) :
      ¬ delimiter.toList <:+: rule.toList := by
    intro hinside
    exact Text.not_infix_of_mem_splitOn (by simpa using hnonempty) hpart (hinside.trans hrule)
  refine ⟨?_, by simpa using hne, by rw [← htrim, Text.trim_trim], ?_⟩
  · exact (hruleInBlock.trans (Text.isInfix_of_mem_splitOn hblock)).trans (Text.trim_isInfix _)
  · simp only [List.forall_mem_cons, List.not_mem_nil, false_imp_iff, implies_true, and_true]
    exact ⟨fun hnonempty => hfree _ _ _ hnonempty hblock hruleInBlock,
      fun hnonempty => hfree _ _ _ hnonempty hbody hruleInBody,
      fun hnonempty => hfree _ _ _ hnonempty hpiece hruleInPiece⟩

/-- Whatever the definition is, its rules come under distinct categories, none of them without a
    rule, and every rule is a trimmed part of the text that is not empty and holds no delimiter. -/
theorem parse_clean (d : Delimiters) (definition : String) :
    (parse d definition).categories.Nodup ∧
      ∀ entity ∈ (parse d definition).entities, entity.rules ≠ [] ∧
        ∀ rule ∈ entity.rules, Clean d definition rule := by
  have hgrouped := grouped_parse d definition
  refine ⟨hgrouped.nodup, ?_⟩
  intro entity hentity
  refine ⟨hgrouped.rules_ne_nil entity hentity, ?_⟩
  intro rule hrule
  have hfound : rule ∈ (parse d definition).rules entity.category := by
    rw [Collection.rules_eq_flatMap hgrouped.nodup, List.mem_flatMap]
    exact ⟨entity, List.mem_filter.mpr ⟨hentity, by simp⟩, hrule⟩
  obtain ⟨block, hblock, hmem⟩ := mem_rules_parse_iff.mp hfound
  exact clean_of_mem hblock hmem

/-- The first of two delimiters that overlap is cut at: a bar goes to an unknown block, a semicolon
    stays with the rule behind it. -/
theorem parse_clean_overlapping :
    let d : Delimiters := ⟨"|&|", "::", ";;"⟩
    let definition := " ui_alert:: a;;; b |&|&|UI_ALERT::x|&|UI_ERROR::;c"
    (parse d definition).entities = [⟨.uiAlert, ["a", "; b"]⟩, ⟨.uiError, [";c"]⟩] ∧
      ⟨.uiAlert, ["a", "; b"]⟩ ∈ (parse d definition).entities ∧ Clean d definition "; b" := by
  intro d definition
  have hentities : (parse d definition).entities =
      [⟨.uiAlert, ["a", "; b"]⟩, ⟨.uiError, [";c"]⟩] := by decide +kernel
  have hmem : ⟨.uiAlert, ["a", "; b"]⟩ ∈ (parse d definition).entities := by simp [hentities]
  exact ⟨hentities, hmem, ((parse_clean d definition).2 _ hmem).2 "; b" (by simp)⟩

end RuleVerify.Definition
