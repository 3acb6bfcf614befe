import RuleVerify.Proofs.Json.Reading
import RuleVerify.Proofs.Saved.Structure

namespace RuleVerify

open Json (Source Value)
open Saved

/-- A category is read from its own token only, in its own case. -/
theorem Category.ofExactToken?_eq_some_iff {text : String} {category : Category} :
    ofExactToken? text = some category ↔ text = category.token := by
  constructor
  · intro h
    have hfound := List.find?_some h
    exact (beq_iff_eq.mp hfound).symm
  · rintro rfl
    cases category <;> decide

/-- A category is read from its token, or from an object that holds nothing but the token with null
    behind it. -/
theorem Category.ofJson?_eq_some_iff {source : Source} {category : Category} :
    ofJson? source = some category ↔ untagged source = category.toJson.source := by
  simp only [ofJson?, Option.bind_eq_bind, Option.bind_eq_some_iff, ofExactToken?_eq_some_iff,
    exists_eq_right, name?_eq_some_iff]
  rfl

namespace Entity

/-- An entity without the members that nothing reads. -/
def withoutUnknown : Source → Source := keepOnly ["category", "rules"]

/-- An entity with its category as a string. -/
def withUntagged : Source → Source := mapField "category" untagged

private theorem source_toJson (entity : Entity) :
    entity.toJson.source =
      .object [(some "category", entity.category.toJson.source),
        (some "rules", .array (entity.rules.map fun rule => .string (some rule)))] := by
  simp [toJson, Function.comp_def]

private theorem reordered_toJson_iff {members : List (Option String × Source)} {entity : Entity} :
    Reordered (.object members) entity.toJson.source ↔
      members.Perm [(some "category", entity.category.toJson.source),
        (some "rules", .array (entity.rules.map fun rule => .string (some rule)))] := by
  have hcategory {source : Source} : Reordered source entity.category.toJson.source ↔
      source = entity.category.toJson.source := reordered_string_iff
  simp only [source_toJson, reordered_object_iff, List.forall₂_cons_right_iff,
    List.forall₂_nil_right_iff, reorderedMember_iff, hcategory, reordered_strings_iff]
  simp

private theorem ofJson?_eq_some_iff {source : Source} {entity : Entity} :
    ofJson? source = some entity ↔
      ∃ category rules, fields? ["category", "rules"] source = some [category, rules] ∧
        untagged category = entity.category.toJson.source ∧
        rules = .array (entity.rules.map fun rule => .string (some rule)) := by
  rw [ofJson?, Option.bind_eq_bind, Option.bind_eq_some_iff]
  constructor
  · rintro ⟨fields, hfields, hentity⟩
    split at hentity
    · simp only [Option.bind_eq_bind, Option.bind_eq_some_iff, Option.pure_def,
        Option.some.injEq] at hentity
      obtain ⟨category, hcategory, rules, hrules, rfl⟩ := hentity
      exact ⟨_, _, hfields, Category.ofJson?_eq_some_iff.mp hcategory,
        list?_string?_eq_some_iff.mp hrules⟩
    · cases hentity
  · rintro ⟨category, rules, hfields, hcategory, hrules⟩
    refine ⟨_, hfields, ?_⟩
    simp [Category.ofJson?_eq_some_iff.mpr hcategory, list?_string?_eq_some_iff.mpr hrules]

/-- An object gives an entity exactly when it is that of the entity, up to the order of its members
    and to members that nothing reads. -/
theorem ofJson?_object_eq_some_iff {members : List (Option String × Source)} {entity : Entity} :
    ofJson? (.object members) = some entity ↔
      Reordered (withUntagged (withoutUnknown (.object members))) entity.toJson.source := by
  have hnames : ["category", "rules"].Nodup := by decide
  rw [ofJson?_eq_some_iff, withoutUnknown, keepOnly, withUntagged, mapField, reordered_toJson_iff,
    map_perm_iff]
  simp only [fields?_object_eq_some_iff hnames]
  constructor
  · rintro ⟨category, rules, ⟨-, hperm⟩, hcategory, hrules⟩
    refine ⟨_, hperm, ?_⟩
    simp [hcategory, hrules, mapMember_other]
  · rintro ⟨fields, hperm, hfields⟩
    obtain ⟨⟨n, category⟩, rest, rfl, hcategory, hrest⟩ := List.map_eq_cons_iff.mp hfields
    obtain ⟨⟨n', rules⟩, rest, rfl, hrules, hnil⟩ := List.map_eq_cons_iff.mp hrest
    obtain rfl := List.map_eq_nil_iff.mp hnil
    obtain rfl : n = some "category" := by simpa using congrArg Prod.fst hcategory
    obtain rfl : n' = some "rules" := by simpa using congrArg Prod.fst hrules
    rw [mapMember_same, Prod.mk.injEq] at hcategory
    rw [mapMember_other (by decide), Prod.mk.injEq] at hrules
    exact ⟨category, rules, ⟨rfl, hperm⟩, hcategory.2, hrules.2⟩

private theorem ofJson?_eq_some_iff_reordered {source : Source} (hsource : isArray source = false)
    {entity : Entity} :
    ofJson? source = some entity ↔
      Reordered (withUntagged (withoutUnknown source)) entity.toJson.source := by
  cases source with
  | object members => exact ofJson?_object_eq_some_iff
  | array items => cases hsource
  | _ =>
    rw [source_toJson]
    constructor
    · rintro ⟨⟩
    · rintro ⟨⟩

private theorem readsBack_toJson (entity : Entity) : entity.toJson.ReadsBack := by
  apply Value.readsBack_object
  intro m hm
  simp only [List.mem_cons, List.not_mem_nil, or_false] at hm
  obtain rfl | rfl := hm
  · exact Value.readsBack_string _
  · apply Value.readsBack_array
    intro item hitem
    obtain ⟨rule, -, rfl⟩ := List.mem_map.mp hitem
    exact Value.readsBack_string rule

private theorem ofJson?_source_toJson (entity : Entity) :
    ofJson? entity.toJson.source = some entity := by
  rw [source_toJson, ofJson?_eq_some_iff]
  exact ⟨_, _, rfl, rfl, rfl⟩

end Entity

namespace Collection

/-- A collection without the members that nothing reads, at the top and in each entity. -/
def withoutUnknown (source : Source) : Source :=
  mapField "entities" (mapItems Entity.withoutUnknown) (keepOnly ["entities"] source)

/-- A collection with every category as a string. -/
def withUntagged (source : Source) : Source :=
  mapField "entities" (mapItems Entity.withUntagged) source

/-- No array stands where a structure is read: neither at the top nor for an entity. -/
structure ObjectsOnly (source : Source) : Prop where
  top : isArray source = false
  entities : ∀ members items, source = .object members → (some "entities", .array items) ∈ members →
    ∀ item ∈ items, isArray item = false

private theorem source_toJson (c : Collection) :
    c.toJson.source =
      .object [(some "entities", .array (c.entities.map fun entity => entity.toJson.source))] := by
  simp [toJson, Function.comp_def]

private theorem readsBack_toJson (c : Collection) : c.toJson.ReadsBack := by
  apply Value.readsBack_object
  intro m hm
  obtain rfl := List.mem_singleton.mp hm
  apply Value.readsBack_array
  intro item hitem
  obtain ⟨entity, -, rfl⟩ := List.mem_map.mp hitem
  exact entity.readsBack_toJson

private theorem ofJson?_eq_some_iff {source : Source} {c : Collection} :
    ofJson? source = some c ↔
      ∃ items, fields? ["entities"] source = some [.array items] ∧
        List.Forall₂ (fun item entity => Entity.ofJson? item = some entity) items c.entities := by
  rw [ofJson?, Option.bind_eq_bind, Option.bind_eq_some_iff]
  constructor
  · rintro ⟨fields, hfields, hc⟩
    split at hc
    · simp only [Option.bind_eq_bind, Option.bind_eq_some_iff, Option.pure_def,
        Option.some.injEq] at hc
      obtain ⟨entities, hentities, rfl⟩ := hc
      obtain ⟨items, rfl, hitems⟩ := list?_eq_some_iff.mp hentities
      exact ⟨items, hfields, hitems⟩
    · cases hc
  · rintro ⟨items, hfields, hitems⟩
    refine ⟨_, hfields, ?_⟩
    simp [list?_eq_some_iff.mpr ⟨items, rfl, hitems⟩]

private theorem ofJson?_source_toJson (c : Collection) : ofJson? c.toJson.source = some c := by
  rw [source_toJson, ofJson?_eq_some_iff]
  refine ⟨_, rfl, ?_⟩
  rw [List.forall₂_map_left_iff, List.forall₂_same]
  exact fun entity _ => entity.ofJson?_source_toJson

/-- What is saved can be loaded again. -/
theorem load?_render_toJson (c : Collection) : load? c.toJson.render = some c := by
  rw [load?, (readsBack_toJson c).ofText?]
  exact ofJson?_source_toJson c

private theorem reordered_toJson_iff {members : List (Option String × Source)} {c : Collection} :
    Reordered (.object members) c.toJson.source ↔
      ∃ items, members = [(some "entities", .array items)] ∧
        List.Forall₂ (fun item entity => Reordered item entity.toJson.source) items
          c.entities := by
  simp only [source_toJson, reordered_object_iff, List.forall₂_cons_right_iff,
    List.forall₂_nil_right_iff, reorderedMember_iff, reordered_array_iff,
    List.forall₂_map_right_iff]
  simp

private theorem reordered_withUntagged_iff {members : List (Option String × Source)}
    {c : Collection} :
    Reordered (withUntagged (withoutUnknown (.object members))) c.toJson.source ↔
      ∃ items, known ["entities"] members = [(some "entities", .array items)] ∧
        List.Forall₂ (fun item entity =>
          Reordered (Entity.withUntagged (Entity.withoutUnknown item)) entity.toJson.source) items
          c.entities := by
  rw [withoutUnknown, keepOnly, withUntagged, mapField, mapField, reordered_toJson_iff]
  simp only [map_mapMember_eq_singleton_iff, mapItems_eq_array_iff]
  constructor
  · rintro ⟨-, ⟨-, ⟨entities, hknown, rfl⟩, items', hitems', rfl⟩, hentities⟩
    obtain ⟨items, rfl, rfl⟩ := mapItems_eq_array_iff.mp hitems'
    rw [List.forall₂_map_left_iff, List.forall₂_map_left_iff] at hentities
    exact ⟨items, hknown, hentities⟩
  · rintro ⟨items, hknown, hentities⟩
    refine ⟨_, ⟨_, ⟨_, hknown, rfl⟩, _, rfl, rfl⟩, ?_⟩
    rw [List.forall₂_map_left_iff, List.forall₂_map_left_iff]
    exact hentities

/-- Saving a collection and loading it again gives the collection, its entities and their rules in
    their order. And where no array stands for a structure, a value gives a collection exactly when
    it is that of the collection but for the order of members, after the members that nothing reads
    have been dropped and the categories that stand as objects have been written as strings. -/
theorem load?_render_and_ofJson?_eq_some_iff :
    (∀ c : Collection, load? c.toJson.render = some c) ∧
      ∀ source, ObjectsOnly source → ∀ c : Collection,
        ofJson? source = some c ↔
          Reordered (withUntagged (withoutUnknown source)) c.toJson.source := by
  refine ⟨load?_render_toJson, ?_⟩
  intro source hsource c
  cases source with
  | object members =>
    have hnames : ["entities"].Nodup := by decide
    have hfields (items : List Source) :
        fields? ["entities"] (.object members) = some [.array items] ↔
          known ["entities"] members = [(some "entities", .array items)] := by
      simp [fields?_object_eq_some_iff hnames]
    -- Both sides speak of the same items, which are then compared one by one.
    rw [ofJson?_eq_some_iff, reordered_withUntagged_iff]
    simp only [hfields]
    apply exists_congr
    intro items
    apply and_congr_right
    intro hknown
    have hmem : (some "entities", .array items) ∈ members := by
      have hmem : (some "entities", .array items) ∈ known ["entities"] members := by simp [hknown]
      exact List.mem_of_mem_filter hmem
    apply forall₂_iff_of_mem
    intro item hitem entity
    exact Entity.ofJson?_eq_some_iff_reordered (hsource.entities members items rfl hmem item hitem)
  | array items => cases hsource.top
  | _ =>
    rw [source_toJson]
    constructor
    · rintro ⟨⟩
    · rintro ⟨⟩

/-- A value with members that nothing reads, the rules of an entity in front of its category, and a
    category as an object. -/
def annotated : Source :=
  .object
    [(some "version", .number none),
     (some "entities", .array
       [.object
          [(some "rules", .array [.string (some "a < b")]),
           (some "note", .string none),
           (some "category", .object [(some "UI_ERROR", .null)])],
        .object
          [(some "category", .string (some "UI_ALERT")),
           (some "rules", .array [])]])]

/-- A note on the entity and another order of its members are lost on the way, and nothing else is.
    -/
theorem ofJson?_annotated :
    let c : Collection := ⟨[⟨.uiError, ["a < b"]⟩, ⟨.uiAlert, []⟩]⟩
    ObjectsOnly annotated ∧ Reordered (withUntagged (withoutUnknown annotated)) c.toJson.source ∧
      ofJson? annotated = some c := by
  intro c
  have hobjects : ObjectsOnly annotated := by
    refine ⟨rfl, ?_⟩
    rintro members items ⟨⟩ hmem item hitem
    simp only [List.mem_cons, List.not_mem_nil, or_false, Prod.mk.injEq, Source.array.injEq,
      Option.some.injEq, reduceCtorEq, and_false, false_or, true_and] at hmem
    obtain rfl := hmem
    simp only [List.mem_cons, List.not_mem_nil, or_false] at hitem
    obtain rfl | rfl := hitem <;> rfl
  have hreordered : Reordered (withUntagged (withoutUnknown annotated)) c.toJson.source := by
    apply reordered_withUntagged_iff.mpr
    refine ⟨_, rfl, .cons ?_ (.cons ?_ .nil)⟩
    · exact Entity.reordered_toJson_iff.mpr (List.Perm.swap _ _ _)
    · exact Entity.reordered_toJson_iff.mpr (List.Perm.refl _)
  exact ⟨hobjects, hreordered,
    (load?_render_and_ofJson?_eq_some_iff.2 annotated hobjects c).mpr hreordered⟩

/-- An entity whose category stands as an object. -/
def taggedEntity : Value :=
  .object [("category", .object [("UI_ALERT", .null)]), ("rules", .array [])]

private theorem source_taggedEntity :
    taggedEntity.source =
      .object [(some "category", .object [(some "UI_ALERT", .null)]), (some "rules", .array [])] :=
  rfl

private theorem readsBack_taggedEntity : taggedEntity.ReadsBack := by
  have hcategory : (Value.object [("UI_ALERT", .null)]).ReadsBack :=
    Value.readsBack_object (by simp [Value.readsBack_null])
  have hrules : (Value.array []).ReadsBack := Value.readsBack_array (by simp)
  exact Value.readsBack_object (by simp [hcategory, hrules])

/-- Dropping members is not enough: the object of a category is taken for its name. -/
theorem load?_taggedEntity :
    let text := "\x7b\"entities\":[\x7b\"category\":\x7b\"UI_ALERT\":null\x7d,\"rules\":[]\x7d]\x7d"
    let source : Source := .object [(some "entities", .array [taggedEntity.source])]
    let c : Collection := ⟨[⟨.uiAlert, []⟩]⟩
    Source.ofText? text = some source ∧ ObjectsOnly source ∧ load? text = some c ∧
      ofJson? source = some c ∧ ¬ Reordered (withoutUnknown source) c.toJson.source := by
  intro text source c
  have hread : Source.ofText? text = some source := by
    have hentities : (Value.array [taggedEntity]).ReadsBack :=
      Value.readsBack_array (by simp [readsBack_taggedEntity])
    have hvalue : (Value.object [("entities", .array [taggedEntity])]).ReadsBack :=
      Value.readsBack_object (by simp [hentities])
    exact hvalue.ofText?
  have hsource : ofJson? source = some c := by
    rw [ofJson?_eq_some_iff]
    exact ⟨_, rfl, .cons (Entity.ofJson?_eq_some_iff.mpr ⟨_, _, rfl, rfl, rfl⟩) .nil⟩
  refine ⟨hread, ⟨rfl, ?_⟩, ?_, hsource, ?_⟩
  · intro members items hmembers hmem item hitem
    cases Source.object.inj hmembers
    obtain rfl : items = [taggedEntity.source] := by simpa using hmem
    obtain rfl := List.mem_singleton.mp hitem
    rfl
  · rw [load?, hread]
    exact hsource
  · intro hreordered
    have hplain : withoutUnknown source = source := rfl
    rw [hplain] at hreordered
    obtain ⟨items, hitems, hentities⟩ := reordered_toJson_iff.mp hreordered
    obtain rfl : items = [taggedEntity.source] := by simpa using hitems.symm
    cases hentities with
    | cons hentity _ =>
      rw [source_taggedEntity] at hentity
      have hperm := Entity.reordered_toJson_iff.mp hentity
      have hcategory := hperm.symm.subset List.mem_cons_self
      simp [Category.toJson] at hcategory

end Collection

end RuleVerify
