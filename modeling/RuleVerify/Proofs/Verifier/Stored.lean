import RuleVerify.Proofs.Collection
import RuleVerify.Proofs.Saved.Collection
import RuleVerify.Proofs.Verifier.Calls

namespace RuleVerify.Collection

/-- What happens to a collection that is kept. -/
inductive Change where
  | append (category : Category) (rule : String)
  | load (text : String)
deriving DecidableEq, Repr

/-- A text that is no saved collection changes nothing. -/
def Change.apply (c : Collection) : Change → Collection
  | .append category rule => c.appendRule category rule
  | .load text => (load? text).getD c

/-- The collection that a change puts in the place of the old one. -/
def Change.loaded? : Change → Option Collection
  | .append _ _ => none
  | .load text => load? text

/-- What becomes of the empty collection. -/
def afterChanges (changes : List Change) : Collection := changes.foldl Change.apply empty

/-- The last collection that was loaded, as it was saved; the empty one if none was. -/
def lastLoaded (changes : List Change) : Collection :=
  ((changes.filterMap Change.loaded?).getLast?).getD empty

private theorem afterChanges_append_singleton (changes : List Change) (change : Change) :
    afterChanges (changes ++ [change]) = change.apply (afterChanges changes) := by
  rw [afterChanges, List.foldl_append, afterChanges]
  rfl

private theorem lastLoaded_append_singleton (changes : List Change) (change : Change) :
    lastLoaded (changes ++ [change]) = change.loaded?.getD (lastLoaded changes) := by
  rw [lastLoaded, List.filterMap_append, lastLoaded]
  cases hloaded : change.loaded? with
  | none => simp [hloaded]
  | some c => simp [hloaded]

/-- One change keeps the categories distinct, or not, as the last load left them. -/
theorem nodup_categories_apply_iff {c loaded : Collection}
    (h : c.categories.Nodup ↔ loaded.categories.Nodup) (change : Change) :
    (change.apply c).categories.Nodup ↔ (change.loaded?.getD loaded).categories.Nodup := by
  cases change with
  | append category rule =>
    exact nodup_categories_appendTo_iff.trans h
  | load text =>
    rw [Change.apply, Change.loaded?]
    cases load? text with
    | none => exact h
    | some saved => rfl

/-- Categories are repeated after any changes exactly when the last document that was loaded repeats
    them. Appending never makes a repetition and never removes one. -/
theorem nodup_categories_afterChanges_iff (changes : List Change) :
    (afterChanges changes).categories.Nodup ↔ (lastLoaded changes).categories.Nodup := by
  induction changes using List.reverseRecOn with
  | nil => rfl
  | append_singleton changes change ih =>
    rw [afterChanges_append_singleton, lastLoaded_append_singleton]
    exact nodup_categories_apply_iff ih change

/-- The categories of a collection that is kept are distinct exactly when those of the last text
    that was loaded are, and then no rule escapes its verification: all rules of all entities of a
    category are evaluated, and nothing else. -/
theorem stored_rules_verified (changes : List Change) :
    let c := afterChanges changes
    (c.categories.Nodup ↔ (lastLoaded changes).categories.Nodup) ∧
      (c.categories.Nodup → ∀ (v : Verifier) (values : Values) (category : Category),
        (v.verify c values category).calls =
          ((c.entities.filter fun entity => entity.category = category).flatMap Entity.rules).map
            fun rule => (v.boolean.outcome (Template.substitute values rule)).call) := by
  intro c
  refine ⟨nodup_categories_afterChanges_iff changes, ?_⟩
  intro hnodup v values category
  rw [v.calls_verify, rules_eq_flatMap hnodup, ruleOutcomes, List.map_map]
  rfl

/-- A saved text in which a category stands twice. -/
def savedTwice : String :=
  "\x7b\"entities\":[\x7b\"category\":\"UI_ALERT\",\"rules\":[\"true\"]\x7d," ++
    "\x7b\"category\":\"UI_ALERT\",\"rules\":[\"false\"]\x7d]\x7d"

private theorem load?_savedTwice :
    load? savedTwice = some ⟨[⟨.uiAlert, ["true"]⟩, ⟨.uiAlert, ["false"]⟩]⟩ := by
  have hsaved : savedTwice =
      (toJson ⟨[⟨.uiAlert, ["true"]⟩, ⟨.uiAlert, ["false"]⟩]⟩).render := by decide +kernel
  rw [hsaved, load?_render_toJson]

def savedOnce : String :=
  "\x7b\"entities\":[\x7b\"category\":\"UI_ALERT\",\"rules\":[\"a\"]\x7d," ++
    "\x7b\"category\":\"UI_COMMON\",\"rules\":[]\x7d]\x7d"

private theorem load?_savedOnce :
    load? savedOnce = some ⟨[⟨.uiAlert, ["a"]⟩, ⟨.uiCommon, []⟩]⟩ := by
  have hsaved : savedOnce = (toJson ⟨[⟨.uiAlert, ["a"]⟩, ⟨.uiCommon, []⟩]⟩).render := by
    decide +kernel
  rw [hsaved, load?_render_toJson]

/-- Of the texts only the second one that is loaded matters; the last is no collection. -/
def keptChanges : List Change :=
  [.append .uiError "x", .load savedTwice, .load savedOnce, .append .uiAlert "b", .load "\x7b\x7d"]

/-- A loaded document with distinct categories grows by a rule, and both rules are evaluated. -/
theorem stored_rules_verified_keptChanges :
    (lastLoaded keptChanges).categories.Nodup ∧ (afterChanges keptChanges).categories.Nodup ∧
      ∀ (v : Verifier) (values : Values),
        (v.verify (afterChanges keptChanges) values .uiAlert).calls =
          [(v.boolean.outcome (Template.substitute values "a")).call,
            (v.boolean.outcome (Template.substitute values "b")).call] := by
  have hnone : load? "\x7b\x7d" = none := by
    have hempty : (Json.Value.object []).ReadsBack := Json.Value.readsBack_object (by simp)
    have hread : Json.Source.ofText? "\x7b\x7d" = some (.object []) := hempty.ofText?
    rw [load?, hread]
    rfl
  have hafter : afterChanges keptChanges = ⟨[⟨.uiAlert, ["a", "b"]⟩, ⟨.uiCommon, []⟩]⟩ := by
    simp only [keptChanges, afterChanges, List.foldl_cons, List.foldl_nil, Change.apply,
      load?_savedOnce, hnone, Option.getD_some, Option.getD_none]
    rfl
  have hlast : lastLoaded keptChanges = ⟨[⟨.uiAlert, ["a"]⟩, ⟨.uiCommon, []⟩]⟩ := by
    have htwice : (Change.load savedTwice).loaded? = some _ := load?_savedTwice
    have honce : (Change.load savedOnce).loaded? = some _ := load?_savedOnce
    have hjunk : (Change.load "\x7b\x7d").loaded? = none := hnone
    -- Each change is taken by what it loads: unfolding `loaded?` would read the texts again.
    rw [lastLoaded, keptChanges, List.filterMap_cons_none rfl, List.filterMap_cons_some htwice,
      List.filterMap_cons_some honce, List.filterMap_cons_none rfl, List.filterMap_cons_none hjunk]
    rfl
  have hloaded : (lastLoaded keptChanges).categories.Nodup := by
    rw [hlast]
    decide
  have hnodup := (stored_rules_verified keptChanges).1.mpr hloaded
  refine ⟨hloaded, hnodup, ?_⟩
  intro v values
  rw [(stored_rules_verified keptChanges).2 hnodup v values .uiAlert, hafter]
  rfl

/-- A rule in the second entity of its category is never evaluated, and a verification passes that
    would fail with it. -/
theorem hidden_rule_not_verified :
    let c := afterChanges [.load savedTwice]
    let v : Verifier :=
      ⟨fun expression => .ofBool (expression == "true"), fun _ _ => "", fun _ _ => ""⟩
    c.categories = [.uiAlert, .uiAlert] ∧
      (∃ entity ∈ c.entities, entity.category = .uiAlert ∧ "false" ∈ entity.rules) ∧
      v.boolean (Template.substitute .empty "false") = .fails ∧
      (v.verify c .empty .uiAlert).calls = [.evaluated "true" .holds] ∧
      (v.verify c .empty .uiAlert).value = .ok ⟨.uiAlert, [⟨"true", .holds⟩]⟩ := by
  intro c v
  have hc : c = ⟨[⟨.uiAlert, ["true"]⟩, ⟨.uiAlert, ["false"]⟩]⟩ := by
    simp only [c, afterChanges, List.foldl_cons, List.foldl_nil, Change.apply, load?_savedTwice,
      Option.getD_some]
  rw [hc]
  refine ⟨rfl, ⟨⟨.uiAlert, ["false"]⟩, by decide, rfl, by decide⟩, ?_, ?_, ?_⟩
  · decide +kernel
  · decide +kernel
  · decide +kernel

end RuleVerify.Collection
