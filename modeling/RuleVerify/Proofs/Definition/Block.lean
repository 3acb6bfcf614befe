import RuleVerify.Definition
import RuleVerify.Proofs.Collection
import RuleVerify.Proofs.Text.Joints

namespace RuleVerify.Definition

variable {d : Delimiters}

/-- The rules of a block with their category; none unless the block has a category and a body. -/
def Block.declarations : Block → List (Category × String)
  | .rules category texts => texts.map fun text => (category, String.ofList text)
  | .blank | .malformed _ | .unknown _ | .bodiless _ => []

private theorem Block.addTo_eq_appendAll (c : Collection) (block : Block) :
    block.addTo c = c.appendAll block.declarations := by
  cases block with
  | rules category texts =>
    rw [addTo, Collection.appendRules_eq_appendAll, declarations, List.map_map]
    rfl
  | blank | malformed | unknown | bodiless => rfl

/-- The rules that a text contributes as a block. -/
def contribution (d : Delimiters) (block : List Char) : List (Category × String) :=
  (readBlock d block).declarations

/-- A definition is read block by block, each on its own. -/
theorem parse_eq_appendAll (d : Delimiters) (definition : String) :
    parse d definition =
      Collection.empty.appendAll ((blocks d definition).flatMap (contribution d)) := by
  rw [Collection.appendAll, List.foldl_flatMap, parse]
  congr 1
  funext c block
  exact Block.addTo_eq_appendAll c _

/-- Whatever the definition is, no category of it has two entities and no entity lacks a rule. -/
theorem grouped_parse (d : Delimiters) (definition : String) :
    Collection.Grouped (parse d definition).entities := by
  rw [parse_eq_appendAll]
  exact Collection.grouped_appendAll _ Collection.grouped_empty _

/-- The rules of a category are those that the blocks contribute to it, block by block. -/
theorem rules_parse (d : Delimiters) (definition : String) (category : Category) :
    (parse d definition).rules category =
      (((blocks d definition).flatMap (contribution d)).filter
        fun declaration => declaration.1 = category).map Prod.snd := by
  rw [parse_eq_appendAll, Collection.rules_appendAll]
  rfl

/-- A rule of a category comes from a block that contributes it, and every such block counts. -/
theorem mem_rules_parse_iff {definition : String} {category : Category} {rule : String} :
    rule ∈ (parse d definition).rules category ↔
      ∃ block ∈ blocks d definition, (category, rule) ∈ contribution d block := by
  rw [rules_parse, List.mem_map]
  constructor
  · rintro ⟨⟨category', rule'⟩, hfilter, rfl⟩
    obtain ⟨hmem, hcategory⟩ := List.mem_filter.mp hfilter
    obtain rfl : category' = category := of_decide_eq_true hcategory
    exact List.mem_flatMap.mp hmem
  · intro hmem
    exact ⟨(category, rule), List.mem_filter.mpr ⟨List.mem_flatMap.mpr hmem, by simp⟩, rfl⟩

/-- White space around a block changes nothing. -/
theorem readBlock_trim (d : Delimiters) (block : List Char) :
    readBlock d (Text.trim block) = readBlock d block := by
  rw [readBlock, readBlock, Text.allBlank_trim, Text.trim_trim]

private theorem contribution_trim (d : Delimiters) (block : List Char) :
    contribution d (Text.trim block) = contribution d block := by
  rw [contribution, readBlock_trim, contribution]

/-- Rows of blocks that differ in the white space around the blocks contribute the same. -/
theorem flatMap_contribution_eq {first second : List (List Char)}
    (htrim : first.map Text.trim = second.map Text.trim) :
    first.flatMap (contribution d) = second.flatMap (contribution d) := by
  have hrow (row : List (List Char)) :
      row.flatMap (contribution d) = (row.map Text.trim).flatMap (contribution d) := by
    rw [List.flatMap_map]
    simp only [contribution_trim]
  rw [hrow first, hrow second, htrim]

/-- A text without a category contributes nothing. -/
theorem allBlank_eq_false_of_ofToken? {token : List Char} {category : Category}
    (htoken : Category.ofToken? token = some category) : Text.allBlank token = false := by
  rw [← Bool.not_eq_true, ← Text.isEmpty_trim, List.isEmpty_iff]
  intro hempty
  rw [Category.ofToken?, hempty] at htoken
  simp [Category.all, Category.token, Text.toLowerAscii] at htoken

/-- White space around a token does not change its category. -/
theorem ofToken?_eq_of_trim_eq {first second : List Char}
    (htrim : Text.trim first = Text.trim second) :
    Category.ofToken? first = Category.ofToken? second := by
  rw [Category.ofToken?, Category.ofToken?, htrim]

/-- A block of which the first part is a token is not blank, whatever the category delimiter is. -/
theorem allBlank_eq_false_of_splitOn {block token : List Char} {parts : List (List Char)}
    {category : Category}
    (hsplit : Text.splitOn d.category.toList (Text.trim block) = token :: parts)
    (htoken : Category.ofToken? token = some category) : Text.allBlank block = false := by
  have hnot := allBlank_eq_false_of_ofToken? htoken
  rw [← Bool.not_eq_true]
  intro hblank
  have htrim : Text.trim block = [] := by rw [← List.isEmpty_iff, Text.isEmpty_trim, hblank]
  have hnil : token = [] := by
    rw [htrim, Text.splitOn] at hsplit
    split at hsplit
    · exact (List.cons.inj hsplit).1.symm
    · rw [Text.splitPassing] at hsplit
      exact (List.cons.inj hsplit).1.symm
  rw [hnil] at hnot
  cases hnot

/-- Of the five things that a block may be, it is rules when it has a category and a body. -/
theorem readBlock_eq_rules_iff {block : List Char} {category : Category}
    {texts : List (List Char)} :
    readBlock d block = .rules category texts ↔
      ∃ token body, Text.splitOn d.category.toList (Text.trim block) = [token, body] ∧
        Category.ofToken? token = some category ∧ Text.allBlank body = false ∧
        texts = bodyRules d body := by
  constructor
  · intro hread
    unfold readBlock at hread
    split at hread
    · cases hread
    · split at hread
      · rename_i token body hsplit
        split at hread
        · cases hread
        · rename_i category' htoken
          split at hread
          · cases hread
          · rename_i hbody
            cases hread
            exact ⟨token, body, hsplit, htoken, by simpa using hbody, rfl⟩
      · cases hread
  · rintro ⟨token, body, hsplit, htoken, hbody, rfl⟩
    rw [readBlock, allBlank_eq_false_of_splitOn hsplit htoken, hsplit]
    simp [htoken, hbody]

/-- What a block contributes are the rules of its body, under its category. -/
theorem mem_contribution_iff {block : List Char} {category : Category} {rule : String} :
    (category, rule) ∈ contribution d block ↔
      ∃ token body, Text.splitOn d.category.toList (Text.trim block) = [token, body] ∧
        Category.ofToken? token = some category ∧ Text.allBlank body = false ∧
        rule.toList ∈ bodyRules d body := by
  constructor
  · intro hmem
    cases hread : readBlock d block with
    | rules category' texts =>
      simp only [contribution, hread, Block.declarations, List.mem_map, Prod.mk.injEq] at hmem
      obtain ⟨text, htext, rfl, rfl⟩ := hmem
      obtain ⟨token, body, hsplit, htoken, hbody, rfl⟩ := readBlock_eq_rules_iff.mp hread
      exact ⟨token, body, hsplit, htoken, hbody, by rwa [String.toList_ofList]⟩
    | blank | malformed | unknown | bodiless =>
      simp [contribution, hread, Block.declarations] at hmem
  · rintro ⟨token, body, hsplit, htoken, hbody, hmem⟩
    have hread := readBlock_eq_rules_iff.mpr ⟨token, body, hsplit, htoken, hbody, rfl⟩
    rw [contribution, hread, Block.declarations, List.mem_map]
    exact ⟨rule.toList, hmem, by rw [String.ofList_toList]⟩

/-- A body is its pieces without the white space around them and without the blank ones. -/
theorem bodyRules_eq {body : List Char} {pieces : List (List Char)}
    (htrim : (Text.splitOn d.rules.toList (Text.trim body)).map Text.trim =
      pieces.map Text.trim) :
    bodyRules d body = (pieces.filter fun piece => !Text.allBlank piece).map Text.trim := by
  rw [bodyRules, htrim, List.filter_map]
  simp [Function.comp_def]

end RuleVerify.Definition
