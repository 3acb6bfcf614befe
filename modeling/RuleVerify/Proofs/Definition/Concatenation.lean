import RuleVerify.Proofs.Definition.Block

namespace RuleVerify.Definition

open Text (JoinsCleanly Tight)

/-- A types delimiter that neither begins nor ends with white space is not touched by trimming, so
    a definition contributes what the pieces of the whole text contribute. -/
theorem parse_eq_appendAll_splitOn {d : Delimiters} (htypes : Tight d.types.toList)
    (definition : String) :
    parse d definition = Collection.empty.appendAll
      ((Text.splitOn d.types.toList definition.toList).flatMap (contribution d)) := by
  have hcut : (blocks d definition).map Text.trim =
      (Text.splitOn d.types.toList definition.toList).map Text.trim := by
    apply Text.map_trim_splitOn_trim htypes.ne_nil
    · intro before after _
      exact Text.trimStart_append_of_trimStart_eq htypes.trimStart_eq
    · intro before after _
      exact Text.trimEnd_append_of_trimEnd_eq htypes.trimEnd_eq
  rw [parse_eq_appendAll, flatMap_contribution_eq hcut]

/-- The rules of the second definition are appended to the first, in any order that keeps each
    category's own. -/
theorem parse_append_delimiter {d : Delimiters} (htypes : Tight d.types.toList) {a : String}
    (hjoin : JoinsCleanly d.types.toList a.toList) (b : String) :
    parse d (a ++ d.types ++ b) = (parse d a).appendAll (parse d b).declarations := by
  rw [parse_eq_appendAll_splitOn htypes, String.toList_append, String.toList_append,
    Text.splitOn_append_delimiter htypes.ne_nil hjoin, List.flatMap_append,
    Collection.appendAll_append, ← parse_eq_appendAll_splitOn htypes a,
    ← Collection.appendAll_declarations_appendAll, ← parse_eq_appendAll_splitOn htypes b]

/-- A block with a category and a body. -/
def accepted (d : Delimiters) (block : List Char) : Bool :=
  match readBlock d block with
  | .rules _ _ => true
  | _ => false

private theorem contribution_of_not_accepted {d : Delimiters} {block : List Char}
    (hrejected : accepted d block = false) : contribution d block = [] := by
  rw [accepted] at hrejected
  rw [contribution]
  cases hread : readBlock d block with
  | rules category texts => simp [hread] at hrejected
  | blank | malformed | unknown | bodiless => rfl

private theorem flatMap_contribution_filter (d : Delimiters) (row : List (List Char)) :
    (row.filter (accepted d)).flatMap (contribution d) = row.flatMap (contribution d) := by
  induction row with
  | nil => rfl
  | cons block row ih =>
    rw [List.filter_cons, List.flatMap_cons]
    split
    · rw [List.flatMap_cons, ih]
    · rename_i hrejected
      rw [contribution_of_not_accepted (by simpa using hrejected), List.nil_append, ih]

/-- Reading takes the concatenation of definitions to that of their rules: all rules of all
    entities of the second are appended to what the first says. Only the accepted blocks count:
    definitions that have them in common say the same, whatever else stands between them. -/
theorem parse_concat (d : Delimiters) (a b : String) (htypes : Tight d.types.toList)
    (hjoin : JoinsCleanly d.types.toList a.toList) :
    parse d (a ++ d.types ++ b) =
        ((parse d b).entities.flatMap fun entity =>
          entity.rules.map fun rule => (entity.category, rule)).foldl
            (fun c declaration => c.appendRule declaration.1 declaration.2) (parse d a) ∧
      ∀ other : String,
        (Text.splitOn d.types.toList other.toList).filter (accepted d) =
          (Text.splitOn d.types.toList (a ++ d.types ++ b).toList).filter (accepted d) →
        parse d other = parse d (a ++ d.types ++ b) := by
  refine ⟨parse_append_delimiter htypes hjoin b, ?_⟩
  intro other hsame
  rw [parse_eq_appendAll_splitOn htypes, parse_eq_appendAll_splitOn htypes,
    ← flatMap_contribution_filter, hsame, flatMap_contribution_filter]

/-- The joint is found although the first text ends in half a delimiter, and the rules of
    `UI_ALERT` come together although `UI_ERROR` stands between them. -/
theorem parse_concat_interleaved :
    Tight Delimiters.default.types.toList ∧
      JoinsCleanly Delimiters.default.types.toList " UI_ALERT:  a|&|junk|& ".toList ∧
      parse .default (" UI_ALERT:  a|&|junk|& " ++ Delimiters.default.types ++
          "ui_error:  x;   ;  y |&|Ui_Alert:  b ") =
        ⟨[⟨.uiAlert, ["a", "b"]⟩, ⟨.uiError, ["x", "y"]⟩]⟩ := by
  have htypes : Tight Delimiters.default.types.toList :=
    ⟨⟨'|', ['&', '|'], rfl, rfl⟩, ['|', '&'], '|', rfl, rfl⟩
  have hjoin : JoinsCleanly Delimiters.default.types.toList " UI_ALERT:  a|&|junk|& ".toList := by
    decide +kernel
  refine ⟨htypes, hjoin, ?_⟩
  rw [(parse_concat .default _ "ui_error:  x;   ;  y |&|Ui_Alert:  b " htypes hjoin).1]
  decide +kernel

end RuleVerify.Definition
