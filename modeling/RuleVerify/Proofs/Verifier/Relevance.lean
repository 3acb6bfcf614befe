import RuleVerify.Proofs.Template.Reading
import RuleVerify.Proofs.Verifier.Outcomes

namespace RuleVerify

/-- Each of the names is missing in both maps, or has values in both that differ in white space
    only. -/
def Values.AgreeOn (first second : Values) (names : List String) : Prop :=
  ∀ name ∈ names,
    (first.get? name).map Template.normalizeSpace = (second.get? name).map Template.normalizeSpace

instance (first second : Values) (names : List String) : Decidable (first.AgreeOn second names) :=
  inferInstanceAs (Decidable (∀ name ∈ names, _ = _))

namespace Template

variable {first second : Values}

/-- Values that differ only in white space fill a placeholder alike. -/
theorem fill_congr {name : List Char}
    (hname : (first.get? (String.ofList name)).map normalizeSpace =
      (second.get? (String.ofList name)).map normalizeSpace) :
    fill first name = fill second name := by
  unfold fill
  cases hfirst : first.get? (String.ofList name) with
  | none =>
    rw [hfirst, Option.map_none, eq_comm, Option.map_eq_none_iff] at hname
    rw [hname]
  | some value =>
    rw [hfirst, Option.map_some, eq_comm, Option.map_eq_some_iff] at hname
    obtain ⟨other, hsecond, hspace⟩ := hname
    rw [hsecond]
    exact (String.ofList_injective hspace).symm

/-- The empty name is looked up but not listed, so it counts besides the listed ones. -/
theorem substitute_congr {expression : String}
    (hagree : first.AgreeOn second ("" :: placeholders expression)) :
    substitute first expression = substitute second expression := by
  rw [substitute_eq, substitute_eq]
  congr 1
  apply Segments.write_congr
  intro hole hmem
  apply fill_congr
  apply hagree
  by_cases hname : hole.name = []
  · simp [hname]
  · exact List.mem_cons_of_mem _ (mem_placeholders_of_mem_holes hmem hname)

end Template

/-- Rules have the same outcomes under values that agree on their placeholders. -/
theorem ruleOutcomes_congr (evaluate : BooleanEvaluator) {first second : Values}
    {rules : List String}
    (hagree : first.AgreeOn second ("" :: rules.flatMap Template.placeholders)) :
    ruleOutcomes evaluate first rules = ruleOutcomes evaluate second rules := by
  apply List.map_congr_left
  intro rule hmem
  rw [Template.substitute_congr]
  intro name hname
  apply hagree
  obtain rfl | hlisted := List.mem_cons.mp hname
  · exact List.mem_cons_self
  · exact List.mem_cons_of_mem _ (List.mem_flatMap.mpr ⟨rule, hmem, hlisted⟩)

/-- A verification sees of its values only what the placeholders of its rules name, and that up to
    white space: where two maps agree on these names and on the empty one, the same evaluations are
    made in the same order, and the report or the failures are the same. -/
theorem Verifier.verify_congr (v : Verifier) (c : Collection) (category : Category)
    {first second : Values}
    (hagree : first.AgreeOn second ("" :: (c.rules category).flatMap Template.placeholders)) :
    v.verify c first category = v.verify c second category := by
  cases hentity : c.entity? category with
  | none => rw [verify, verify, hentity]
  | some entity =>
    have hrules : c.rules category = entity.rules := by rw [Collection.rules, hentity]; rfl
    rw [hrules] at hagree
    rw [v.verify_eq hentity, v.verify_eq hentity, ruleOutcomes_congr v.boolean hagree]

/-- The values of `a` are the same words, `b` is never closed, and `c` belongs to another category.
    A map of unused names counts as the empty one. -/
theorem Verifier.verify_congr_words :
    let c : Collection :=
      ⟨[⟨.uiCommon, ["eq($\x7ba\x7d, $\x7b\x7d)", "$\x7bb"]⟩, ⟨.uiAlert, ["$\x7bc\x7d"]⟩]⟩
    let names := "" :: (c.rules .uiCommon).flatMap Template.placeholders
    let first := Values.ofList [("c", "1"), ("a", " x\n\ty"), ("b", "2")]
    let second := Values.ofList [("a", "x y"), ("c", "3")]
    let unused := Values.ofList [("b", "4"), ("c", "5")]
    first.AgreeOn second names ∧ unused.AgreeOn .empty names ∧
      ∀ v : Verifier, v.verify c first .uiCommon = v.verify c second .uiCommon ∧
        v.verify c unused .uiCommon = v.verify c .empty .uiCommon := by
  intro c names first second unused
  have hwords : first.AgreeOn second names := by decide +kernel
  have hunused : unused.AgreeOn .empty names := by decide +kernel
  refine ⟨hwords, hunused, ?_⟩
  intro v
  exact ⟨v.verify_congr c .uiCommon hwords, v.verify_congr c .uiCommon hunused⟩

end RuleVerify
