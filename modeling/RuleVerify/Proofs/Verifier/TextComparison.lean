import RuleVerify.Engine
import RuleVerify.Proofs.Expr.Call
import RuleVerify.Proofs.Library
import RuleVerify.Proofs.Sandbox
import RuleVerify.Proofs.Template.Embedding
import RuleVerify.Proofs.Verifier.Outcomes

namespace RuleVerify

open RuleVerify.Expr (Plain)

/-- What a rule asks of a captured text and a literal one. -/
inductive Comparison where
  | includes
  | startsWith
  | endsWith
  | eq
deriving DecidableEq, Repr

namespace Comparison

def name : Comparison → String
  | includes => "_.includes"
  | startsWith => "_.startsWith"
  | endsWith => "_.endsWith"
  | eq => "_.eq"

def Holds : Comparison → List Char → List Char → Prop
  | includes, text, literal => literal <:+: text
  | startsWith, text, literal => literal <+: text
  | endsWith, text, literal => literal <:+ text
  | eq, text, literal => text = literal

instance : (comparison : Comparison) → (text literal : List Char) →
    Decidable (comparison.Holds text literal)
  | includes, text, literal => inferInstanceAs (Decidable (literal <:+: text))
  | startsWith, text, literal => inferInstanceAs (Decidable (literal <+: text))
  | endsWith, text, literal => inferInstanceAs (Decidable (literal <:+ text))
  | eq, text, literal => inferInstanceAs (Decidable (text = literal))

/-- The rule, with an exclamation mark in front if it asks for the opposite. -/
def rule (comparison : Comparison) (negated : Bool) (text literal : String) : String :=
  (if negated then "!" else "") ++ comparison.name ++ "(\"" ++ text ++ "\", \"" ++ literal ++ "\")"

private theorem toList_rule (comparison : Comparison) (negated : Bool) (text literal : String) :
    (comparison.rule negated text literal).toList =
      Expr.callText negated comparison.name.toList text.toList literal.toList := by
  cases negated <;> simp [rule, Expr.callText]

private theorem isWordChar_of_mem_name (comparison : Comparison) :
    ∀ c ∈ comparison.name.toList, Expr.isWordChar c = true := by
  have hall : comparison.name.toList.all Expr.isWordChar = true := by cases comparison <;> rfl
  exact List.all_eq_true.mp hall

private theorem constant?_name (comparison : Comparison) :
    Expr.constant? comparison.name.toList = none := by
  cases comparison <;> rfl

private theorem toList_name_ne_nil (comparison : Comparison) : comparison.name.toList ≠ [] := by
  cases comparison <;> decide

/-- The library function of the same name. -/
def function : Comparison → Expr.Function
  | includes => Library.includes
  | startsWith => Library.startsWith
  | endsWith => Library.endsWith
  | eq => Library.eq

private theorem lookup_name (comparison : Comparison) :
    Library.lodash.functions.lookup comparison.name = some comparison.function := by
  cases comparison <;> rfl

/-- The function of a comparison answers whether it holds of two texts. -/
theorem function_apply (comparison : Comparison) (text literal : String) :
    comparison.function (.tuple [.string text, .string literal]) =
      .ok (.boolean (decide (comparison.Holds text.toList literal.toList))) := by
  have htexts : Library.HasTexts (.tuple [.string text, .string literal]) text literal :=
    ⟨_, _, rfl, rfl, rfl⟩
  cases comparison with
  | includes => exact Library.includes_eq_ok_iff.mpr (.inr ⟨text, literal, htexts, rfl⟩)
  | startsWith => exact Library.startsWith_eq_ok_iff.mpr ⟨text, literal, htexts, rfl⟩
  | endsWith => exact Library.endsWith_eq_ok_iff.mpr ⟨text, literal, htexts, rfl⟩
  | eq =>
    have htest : (Expr.Value.string text == Expr.Value.string literal) =
        decide (Holds eq text.toList literal.toList) := by
      change (text == literal) = _
      rw [Bool.eq_iff_iff, decide_eq_true_iff, beq_iff_eq, Holds, String.toList_inj]
    rw [← htest]
    rfl

/-- With the library at hand the name of a comparison calls it. -/
theorem call_name {s : Sandbox} (hloaded : s.loaded = [Library.lodash]) (comparison : Comparison)
    (text literal : String) :
    Expr.call s.vocabulary comparison.name (.tuple [.string text, .string literal]) =
      .ok (.boolean (decide (comparison.Holds text.toList literal.toList))) := by
  rw [Expr.call, Sandbox.vocabulary_of_loaded hloaded, lookup_name]
  exact comparison.function_apply text literal

/-- A rule with two plain texts holds exactly when the comparison does, or does not where it is
    negated. -/
theorem evaluate_rule {s : Sandbox} (hloaded : s.loaded = [Library.lodash])
    (comparison : Comparison) (negated : Bool) {text literal : String} (htext : Plain text.toList)
    (hliteral : Plain literal.toList) :
    s.evaluate (comparison.rule negated text literal) =
      .ofBool (negated ^^ decide (comparison.Holds text.toList literal.toList)) := by
  have hname := comparison.isWordChar_of_mem_name
  have hne := comparison.toList_name_ne_nil
  have hstrip := Sandbox.stripTerminator_of_tight
    (Expr.tight_callText negated text.toList literal.toList hname hne)
    (Expr.not_semicolon_suffix_callText negated _ _ _)
  have hvalue : Expr.evalBoolean s.vocabulary
      (Expr.callText negated comparison.name.toList text.toList literal.toList) =
        .ok (negated ^^ decide (comparison.Holds text.toList literal.toList)) := by
    apply Expr.evalBoolean_callText negated hname hne comparison.constant?_name htext hliteral
    simpa only [String.ofList_toList] using comparison.call_name hloaded text literal
  rw [Sandbox.evaluate, toList_rule, hstrip, hvalue]

/-- Values go into the text of a rule and nowhere else. -/
theorem substitute_rule (values : Values) (comparison : Comparison) (negated : Bool)
    (template : String) {literal : String} (hbrace : '\x7d' ∉ literal.toList) :
    Template.substitute values (comparison.rule negated template literal) =
      comparison.rule negated (Template.substitute values template) literal := by
  have hrule (text : String) : comparison.rule negated text literal =
      String.ofList (((if negated then ['!'] else []) ++ comparison.name.toList ++ ['(', '"']) ++
        text.toList ++ (['"', ',', ' ', '"'] ++ literal.toList ++ ['"', ')'])) := by
    rw [← String.toList_inj, toList_rule, String.toList_ofList, Expr.callText]
    simp only [List.append_assoc]
  rw [hrule, hrule]
  apply Template.substitute_embed
  · cases comparison <;> cases negated <;> decide
  · simp [hbrace]

end Comparison

/-- Substitution brings no quote and no backslash into a text, if no value holds one. -/
theorem plain_substitute {values : Values} {template : String} (htemplate : Plain template.toList)
    (hvalues : ∀ name value, values.get? name = some value → Plain value.toList) :
    Plain (Template.substitute values template).toList := by
  refine ⟨?_, ?_⟩
  · apply Template.not_mem_substitute (by decide) htemplate.1
    intro name value hvalue
    exact (hvalues name value hvalue).1
  · apply Template.not_mem_substitute (by decide) htemplate.2
    intro name value hvalue
    exact (hvalues name value hvalue).2

/-- A value with line breaks, a comment, a call and a placeholder of its own. -/
def capturedValues : Values := .ofList [("msg", " !_.eq(1, 2);\n// $\x7bother\x7d  ")]

/-- A known, an unknown, an empty and an unterminated placeholder. -/
def capturedTemplate : String := "<$\x7bmsg\x7d$\x7bnone\x7d$\x7b\x7d$\x7bopen"

def capturedEntity : Entity where
  category := .uiCommon
  rules := ["broken (", Comparison.endsWith.rule true capturedTemplate "$\x7bopen"]

private theorem plain_capturedValues {name value : String}
    (hvalue : capturedValues.get? name = some value) :
    Plain value.toList := by
  simp only [capturedValues, Values.ofList, List.foldl_cons, List.foldl_nil, Values.get?_insert,
    Values.get?_empty] at hvalue
  split at hvalue
  · cases hvalue
    decide
  · cases hvalue

end RuleVerify
