import Mathlib.Data.List.Induction
import RuleVerify.Entity

namespace RuleVerify.Collection

variable {category other : Category} {rule otherRule : String} {entities : List Entity}

/-- Appends rules of any categories, one after the other. -/
def appendAll (c : Collection) (declarations : List (Category × String)) : Collection :=
  declarations.foldl (fun c declaration => c.appendRule declaration.1 declaration.2) c

@[simp] theorem appendAll_nil (c : Collection) : c.appendAll [] = c := rfl

theorem appendAll_cons (c : Collection) (declaration : Category × String)
    (declarations : List (Category × String)) :
    c.appendAll (declaration :: declarations) =
      (c.appendRule declaration.1 declaration.2).appendAll declarations := rfl

theorem appendAll_append (c : Collection) (first second : List (Category × String)) :
    c.appendAll (first ++ second) = (c.appendAll first).appendAll second := List.foldl_append

/-- The rules of one category are appended like any others. -/
theorem appendRules_eq_appendAll (c : Collection) (category : Category) (rules : List String) :
    c.appendRules category rules = c.appendAll (rules.map (category, ·)) := by
  rw [appendAll, List.foldl_map, appendRules]

/-- The rules of one entity with its category. -/
def declarationsOf (entity : Entity) : List (Category × String) :=
  entity.rules.map (entity.category, ·)

/-- The rules of all entities with their categories, entity by entity. -/
def declarations (c : Collection) : List (Category × String) := c.entities.flatMap declarationsOf

def categories (c : Collection) : List Category := c.entities.map Entity.category

/-- The first entity of a category. Others of the same category behind it do not count. -/
def First (c : Collection) (category : Category) (entity : Entity) : Prop :=
  ∃ before after, c.entities = before ++ entity :: after ∧ entity.category = category ∧
    category ∉ before.map Entity.category

/-- Look-ups find the first entity of a category, whatever stands behind it. -/
theorem entity?_eq_some_iff {c : Collection} {entity : Entity} :
    c.entity? category = some entity ↔ c.First category entity := by
  rw [entity?, List.find?_eq_some_iff_append]
  constructor
  · rintro ⟨hcategory, before, after, hentities, hbefore⟩
    refine ⟨before, after, hentities, of_decide_eq_true hcategory, ?_⟩
    rw [List.mem_map]
    rintro ⟨other, hmem, hother⟩
    simpa [hother] using hbefore other hmem
  · rintro ⟨before, after, hentities, hcategory, hbefore⟩
    refine ⟨decide_eq_true hcategory, before, after, hentities, ?_⟩
    intro other hmem
    rw [Bool.not_eq_true', decide_eq_false_iff_not]
    exact fun hother => hbefore (List.mem_map.mpr ⟨other, hmem, hother⟩)

/-- Nothing is found exactly where no entity has the category. -/
theorem entity?_eq_none_iff {c : Collection} :
    c.entity? category = none ↔ category ∉ c.categories := by
  rw [entity?, List.find?_eq_none, categories, List.mem_map]
  simp

/-- Every entity has a category of its own and at least one rule, as it is when nothing but
    appending made the collection. -/
structure Grouped (entities : List Entity) : Prop where
  nodup : (entities.map Entity.category).Nodup
  rules_ne_nil : ∀ entity ∈ entities, entity.rules ≠ []

/-- Appending changes the row of categories only by one that was not there. -/
theorem map_category_appendTo :
    (appendTo category rule entities).map Entity.category =
      if category ∈ entities.map Entity.category then entities.map Entity.category
      else entities.map Entity.category ++ [category] := by
  induction entities with
  | nil => simp [appendTo]
  | cons entity entities ih =>
    rw [appendTo]
    by_cases hcategory : entity.category = category
    · simp [hcategory]
    · rw [if_neg hcategory, List.map_cons, ih]
      by_cases hmem : category ∈ entities.map Entity.category
      · simp [hmem]
      · simp [hmem, Ne.symm hcategory]

private theorem mem_categories_appendTo :
    other ∈ (appendTo category rule entities).map Entity.category ↔
      other = category ∨ other ∈ entities.map Entity.category := by
  rw [map_category_appendTo]
  split
  · rename_i hmem
    constructor
    · exact Or.inr
    · rintro (rfl | hother)
      · exact hmem
      · exact hother
  · rw [List.mem_append, List.mem_singleton, or_comm]

/-- So it neither makes nor removes a second entity of a category. -/
theorem nodup_categories_appendTo_iff :
    ((appendTo category rule entities).map Entity.category).Nodup ↔
      (entities.map Entity.category).Nodup := by
  rw [map_category_appendTo]
  split
  · rfl
  · rename_i hnew
    rw [List.nodup_append]
    constructor
    · exact fun h => h.1
    · intro hnodup
      refine ⟨hnodup, by simp, ?_⟩
      intro other hother last hlast hsame
      rw [List.mem_singleton] at hlast
      exact hnew (hlast ▸ hsame ▸ hother)

/-- Appending a rule keeps the entities grouped. The category may be new or not. -/
theorem Grouped.appendTo (h : Grouped entities) (category : Category) (rule : String) :
    Grouped (appendTo category rule entities) := by
  obtain ⟨hnodup, hrules⟩ := h
  refine ⟨nodup_categories_appendTo_iff.mpr hnodup, ?_⟩
  clear hnodup
  induction entities with
  | nil => simp [Collection.appendTo]
  | cons entity entities ih =>
    simp only [List.mem_cons, forall_eq_or_imp] at hrules
    rw [Collection.appendTo]
    split
    · simpa using hrules.2
    · simpa using ⟨hrules.1, ih hrules.2⟩

/-- Appending rules keeps the entities of a collection grouped, whatever their categories. -/
theorem grouped_appendAll (c : Collection) (h : Grouped c.entities)
    (declarations : List (Category × String)) : Grouped (c.appendAll declarations).entities := by
  induction declarations generalizing c with
  | nil => exact h
  | cons declaration declarations ih => exact ih _ (h.appendTo declaration.1 declaration.2)

theorem grouped_empty : Grouped empty.entities := ⟨List.nodup_nil, by simp [empty]⟩

/-- A rule whose category has an entity already can be appended before or after a rule of another
    category. -/
theorem appendRule_comm {c : Collection} (hmem : category ∈ c.categories) (hne : other ≠ category) :
    (c.appendRule category rule).appendRule other otherRule =
      (c.appendRule other otherRule).appendRule category rule := by
  obtain ⟨entities⟩ := c
  simp only [appendRule, Collection.mk.injEq]
  simp only [categories] at hmem
  induction entities with
  | nil => simp at hmem
  | cons entity entities ih =>
    by_cases hcategory : entity.category = category
    · have hother : entity.category ≠ other := hcategory ▸ hne.symm
      simp [appendTo, hcategory, hne.symm]
    · have htail : category ∈ entities.map Entity.category := by
        simpa [Ne.symm hcategory] using hmem
      by_cases hother : entity.category = other
      · simp [appendTo, hother, hne]
      · simp [appendTo, hcategory, hother, ih htail]

private theorem mem_categories_appendRule {c : Collection} :
    other ∈ (c.appendRule category rule).categories ↔ other = category ∨ other ∈ c.categories :=
  mem_categories_appendTo

/-- The categories after appending are those from before and those of the appended rules. -/
theorem mem_categories_appendAll {c : Collection} {declarations : List (Category × String)} :
    other ∈ (c.appendAll declarations).categories ↔
      other ∈ c.categories ∨ other ∈ declarations.map Prod.fst := by
  induction declarations generalizing c with
  | nil => simp
  | cons declaration declarations ih =>
    rw [appendAll_cons, ih, mem_categories_appendRule, List.map_cons, List.mem_cons]
    tauto

/-- The same for a rule and any number of rules of other categories. -/
theorem appendAll_appendRule {c : Collection} {declarations : List (Category × String)}
    (hmem : category ∈ c.categories) (hother : category ∉ declarations.map Prod.fst) :
    (c.appendRule category rule).appendAll declarations =
      (c.appendAll declarations).appendRule category rule := by
  induction declarations generalizing c with
  | nil => rfl
  | cons declaration declarations ih =>
    simp only [List.map_cons, List.mem_cons, not_or] at hother
    rw [appendAll_cons, appendAll_cons, appendRule_comm hmem (Ne.symm hother.1)]
    exact ih (mem_categories_appendRule.mpr (Or.inr hmem)) hother.2

private theorem map_fst_declarationsOf (entity : Entity) :
    (declarationsOf entity).map Prod.fst = entity.rules.map fun _ => entity.category := by
  rw [declarationsOf, List.map_map]
  rfl

/-- Rules grouped by entity append in the same way before and after one of the entities gets a
    rule at its end. -/
theorem appendAll_declarations_appendTo {c : Collection} (h : Grouped entities) :
    c.appendAll ((appendTo category rule entities).flatMap declarationsOf) =
      (c.appendAll (entities.flatMap declarationsOf)).appendRule category rule := by
  obtain ⟨hnodup, hrules⟩ := h
  induction entities generalizing c with
  | nil => simp [appendTo, declarationsOf, appendAll_cons]
  | cons entity entities ih =>
    simp only [List.map_cons, List.nodup_cons] at hnodup
    simp only [List.mem_cons, forall_eq_or_imp] at hrules
    rw [appendTo]
    split
    · rename_i hcategory
      have hgrown : declarationsOf { entity with rules := entity.rules ++ [rule] } =
          declarationsOf entity ++ [(category, rule)] := by simp [declarationsOf, hcategory]
      rw [List.flatMap_cons, List.flatMap_cons, hgrown, List.append_assoc, List.singleton_append,
        appendAll_append, appendAll_append, appendAll_cons]
      apply appendAll_appendRule
      · rw [mem_categories_appendAll, map_fst_declarationsOf]
        obtain ⟨first, hfirst⟩ := List.exists_mem_of_ne_nil _ hrules.1
        rw [← hcategory]
        exact Or.inr (List.mem_map_of_mem hfirst)
      · rw [← hcategory]
        simp only [List.mem_map, List.mem_flatMap, declarationsOf, not_exists, not_and]
        rintro _ ⟨entity', hmem, _, _, rfl⟩ hsame
        exact hnodup.1 (List.mem_map.mpr ⟨entity', hmem, hsame⟩)
    · rw [List.flatMap_cons, List.flatMap_cons, appendAll_append, appendAll_append,
        ih hnodup.2 hrules.2]

/-- Rules appended one by one come out the same as when they are collected first and then appended
    entity by entity. -/
theorem appendAll_declarations_appendAll (c : Collection)
    (declarations : List (Category × String)) :
    c.appendAll (empty.appendAll declarations).declarations = c.appendAll declarations := by
  induction declarations using List.reverseRecOn with
  | nil => rfl
  | append_singleton declarations declaration ih =>
    have hgrouped := grouped_appendAll empty grouped_empty declarations
    rw [appendAll_append, appendAll_append, ← ih]
    exact appendAll_declarations_appendTo hgrouped

private theorem rules_cons (entity : Entity) (entities : List Entity) (category : Category) :
    rules ⟨entity :: entities⟩ category =
      if entity.category = category then entity.rules else rules ⟨entities⟩ category := by
  simp only [rules, entity?, List.find?_cons]
  by_cases hcategory : entity.category = category <;> simp [hcategory]

/-- A rule comes behind the rules of its category, and those of other categories stay. -/
theorem rules_appendRule (c : Collection) (category : Category) (rule : String) (other : Category) :
    (c.appendRule category rule).rules other =
      c.rules other ++ if category = other then [rule] else [] := by
  obtain ⟨entities⟩ := c
  rw [appendRule]
  induction entities with
  | nil =>
    rw [appendTo, rules_cons]
    split <;> rfl
  | cons entity entities ih =>
    rw [appendTo]
    by_cases hcategory : entity.category = category
    · rw [if_pos hcategory, rules_cons, rules_cons]
      by_cases hother : category = other
      · simp [hcategory, hother]
      · simp [hcategory, hother]
    · rw [if_neg hcategory, rules_cons, rules_cons, ih]
      by_cases hother : entity.category = other
      · have hne : category ≠ other := by
          rintro rfl
          exact hcategory hother
        simp [hother, hne]
      · simp [hother]

/-- The rules that are found for a category are those from before and then those appended to it, in
    order. Repeated categories of the collection are allowed. -/
theorem rules_appendAll (c : Collection) (declarations : List (Category × String))
    (category : Category) :
    (c.appendAll declarations).rules category = c.rules category ++
      (declarations.filter fun declaration => declaration.1 = category).map Prod.snd := by
  induction declarations generalizing c with
  | nil => simp
  | cons declaration declarations ih =>
    rw [appendAll_cons, ih, rules_appendRule, List.append_assoc]
    congr 1
    by_cases hcategory : declaration.1 = category <;> simp [hcategory]

/-- Where no category has two entities, no rule is behind the first one. -/
theorem rules_eq_flatMap {c : Collection} (hnodup : c.categories.Nodup) (category : Category) :
    c.rules category =
      (c.entities.filter fun entity => entity.category = category).flatMap Entity.rules := by
  obtain ⟨entities⟩ := c
  rw [categories] at hnodup
  induction entities with
  | nil => rfl
  | cons entity entities ih =>
    simp only [List.map_cons, List.nodup_cons] at hnodup
    rw [rules_cons]
    by_cases hcategory : entity.category = category
    · have hnone : (entities.filter fun entity => entity.category = category) = [] := by
        rw [List.filter_eq_nil_iff]
        intro other hmem hother
        apply hnodup.1
        rw [hcategory, ← of_decide_eq_true hother]
        exact List.mem_map_of_mem hmem
      simp [hcategory, hnone]
    · simpa [hcategory] using ih hnodup.2

end RuleVerify.Collection
