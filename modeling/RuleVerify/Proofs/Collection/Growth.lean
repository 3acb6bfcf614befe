import RuleVerify.Proofs.Collection

namespace RuleVerify.Collection

variable {category : Category} {rule : String} {entities : List Entity} {entity : Entity} {i : Nat}

/-- What a row of appended rules makes of a collection, which may hold a category twice. -/
structure Grown (c : Collection) (declarations : List (Category × String)) (result : Collection) :
    Prop where
  rules_eq : ∀ category, result.rules category = c.rules category ++
    (declarations.filter fun declaration => declaration.1 = category).map Prod.snd
  /-- New categories come behind the old ones, in the order of their first rules. -/
  categories_eq : result.categories = c.categories ++
    ((declarations.map Prod.fst).filter fun category => category ∉ c.categories).eraseDups
  /-- An entity behind another one of its category keeps its place and its rules. -/
  later_eq : ∀ i entity, c.entities[i]? = some entity → entity.category ∈ c.categories.take i →
    result.entities[i]? = some entity

/-- Look-ups tell of the first entity of a category, and the size of all entities. -/
structure Answering (c : Collection) : Prop where
  first_found : ∀ i entity, c.entities[i]? = some entity →
    entity.category ∉ c.categories.take i →
    c.entity? entity.category = some entity ∧ c.rules entity.category = entity.rules
  absent : ∀ category, category ∉ c.categories → c.entity? category = none ∧ c.rules category = []
  size_eq : c.size = c.categories.length
  isEmpty_iff : c.isEmpty = true ↔ c.categories = []

/-- Every collection answers look-ups by its first entity of a category, also one that repeats
    categories. -/
theorem answering (c : Collection) : Answering c := by
  have hrules (category : Category) (found : Option Entity) (hfound : c.entity? category = found) :
      c.rules category = (found.map Entity.rules).getD [] := by rw [rules, hfound]
  refine ⟨?_, ?_, by simp [size, categories], by simp [isEmpty, categories]⟩
  · intro i entity hentity hfirst
    obtain ⟨hlt, hget⟩ := List.getElem?_eq_some_iff.mp hentity
    have hfound : c.entity? entity.category = some entity := by
      refine entity?_eq_some_iff.mpr ⟨c.entities.take i, c.entities.drop (i + 1), ?_, rfl, ?_⟩
      · rw [← hget, List.getElem_cons_drop, List.take_append_drop]
      · rwa [List.map_take]
    exact ⟨hfound, hrules _ _ hfound⟩
  · intro category habsent
    have hnone : c.entity? category = none := entity?_eq_none_iff.mpr habsent
    exact ⟨hnone, hrules _ _ hnone⟩

private theorem getElem?_appendTo_of_ne (hentity : entities[i]? = some entity)
    (hne : entity.category ≠ category) : (appendTo category rule entities)[i]? = some entity := by
  induction entities generalizing i with
  | nil => simp at hentity
  | cons first entities ih =>
    rw [appendTo]
    cases i with
    | zero =>
      obtain rfl : first = entity := by simpa using hentity
      rw [if_neg hne, List.getElem?_cons_zero]
    | succ i =>
      rw [List.getElem?_cons_succ] at hentity
      split
      · rw [List.getElem?_cons_succ, hentity]
      · rw [List.getElem?_cons_succ, ih hentity]

/-- Appending stops at the first entity of the category, so it does not come to a later one. -/
theorem getElem?_appendTo_of_later (hentity : entities[i]? = some entity)
    (hlater : entity.category ∈ (entities.map Entity.category).take i) :
    (appendTo category rule entities)[i]? = some entity := by
  induction entities generalizing i with
  | nil => simp at hentity
  | cons first entities ih =>
    cases i with
    | zero => simp at hlater
    | succ i =>
      rw [List.getElem?_cons_succ] at hentity
      rw [List.map_cons, List.take_succ_cons] at hlater
      rw [appendTo]
      split
      · rw [List.getElem?_cons_succ, hentity]
      · rename_i hfirst
        rw [List.getElem?_cons_succ]
        obtain hsame | hlater := List.mem_cons.mp hlater
        · exact getElem?_appendTo_of_ne hentity (hsame ▸ hfirst)
        · exact ih hentity hlater

/-- One rule adds its category behind the others, if it is new. -/
theorem categories_appendRule (c : Collection) (category : Category) (rule : String) :
    (c.appendRule category rule).categories =
      if category ∈ c.categories then c.categories else c.categories ++ [category] :=
  map_category_appendTo

/-- New categories come behind the old ones, each once, in the order of their first rules. -/
theorem categories_appendAll (c : Collection) (declarations : List (Category × String)) :
    (c.appendAll declarations).categories = c.categories ++
      ((declarations.map Prod.fst).filter fun category => category ∉ c.categories).eraseDups := by
  induction declarations generalizing c with
  | nil => simp
  | cons declaration declarations ih =>
    rw [appendAll_cons, ih, categories_appendRule, List.map_cons]
    split
    · rename_i hold
      rw [List.filter_cons_of_neg (by simpa using hold)]
    · rename_i hnew
      rw [List.filter_cons_of_pos (by simpa using hnew), List.eraseDups_cons, List.filter_filter,
        List.append_assoc, List.singleton_append]
      congr 3
      apply List.filter_congr
      intro other _
      simp [and_comm, beq_eq_decide]

/-- The places up to the old end keep their categories. -/
theorem take_categories_appendRule {c : Collection} (hi : i ≤ c.categories.length) :
    (c.appendRule category rule).categories.take i = c.categories.take i := by
  rw [categories_appendRule]
  split
  · rfl
  · rw [List.take_append_of_le_length hi]

private theorem getElem?_appendAll_of_later {c : Collection}
    (declarations : List (Category × String))
    (hentity : c.entities[i]? = some entity) (hlater : entity.category ∈ c.categories.take i) :
    (c.appendAll declarations).entities[i]? = some entity := by
  induction declarations generalizing c with
  | nil => exact hentity
  | cons declaration declarations ih =>
    rw [appendAll_cons]
    apply ih
    · exact getElem?_appendTo_of_later hentity hlater
    · have hlt := (List.getElem?_eq_some_iff.mp hentity).1
      rw [take_categories_appendRule (by rw [categories, List.length_map]; omega)]
      exact hlater

/-- Whatever the collection holds and however the categories of the rules are mixed, a run of
    appends only adds: to the first entity of a category behind its rules, or a new entity at the
    end. What look-ups say afterwards is what the collection holds. Without a category that stood
    twice before there is none after, as when the collection was empty. -/
theorem appendAll_grows (c : Collection) (declarations : List (Category × String)) :
    Grown c declarations (c.appendAll declarations) ∧ Answering (c.appendAll declarations) ∧
      (empty.appendAll declarations).categories.Nodup :=
  ⟨⟨c.rules_appendAll declarations, c.categories_appendAll declarations,
      fun _ _ hentity hlater => getElem?_appendAll_of_later declarations hentity hlater⟩,
    answering _, (grouped_appendAll empty grouped_empty declarations).nodup⟩

example : (Collection.mk [⟨.uiAlert, ["a"]⟩, ⟨.uiAlert, ["b"]⟩]).appendAll
      [(.uiError, "x"), (.uiAlert, " "), (.uiError, "x"), (.uiAlert, "c")] =
    ⟨[⟨.uiAlert, ["a", " ", "c"]⟩, ⟨.uiAlert, ["b"]⟩, ⟨.uiError, ["x", "x"]⟩]⟩ := by decide

end RuleVerify.Collection
