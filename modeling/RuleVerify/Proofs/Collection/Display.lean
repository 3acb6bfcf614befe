import RuleVerify.Entity
import RuleVerify.Proofs.Text.Quoted

namespace RuleVerify

open Text (SelfDelimiting)

/-- No token is the beginning of another one. -/
theorem Category.selfDelimiting_token : SelfDelimiting fun c : Category => c.token.toList := by
  intro c c' rest rest' heq
  cases c <;> cases c' <;> simp [token] at heq ⊢ <;> exact heq

/-- The text of an entity tells the entity and where it ends. No quoted rule can imitate the end. -/
theorem Entity.selfDelimiting_display :
    SelfDelimiting fun entity : Entity => entity.display.toList := by
  intro entity entity' rest rest' heq
  obtain ⟨category, rules⟩ := entity
  obtain ⟨category', rules'⟩ := entity'
  simp only [Entity.display, String.toList_append, List.append_assoc] at heq
  obtain ⟨rfl, hrules⟩ := Category.selfDelimiting_token _ _ _ _ heq
  obtain ⟨rfl, hrest⟩ := Text.selfDelimiting_quoteList _ _ _ _ (List.append_cancel_left hrules)
  exact ⟨rfl, hrest⟩

/-- The line of an entity in the text of its collection. -/
def Entity.line (entity : Entity) : List Char := [' ', ' '] ++ (entity.display.toList ++ ['\n'])

private theorem Entity.selfDelimiting_line : SelfDelimiting Entity.line :=
  (Entity.selfDelimiting_display.append ['\n']).prepend [' ', ' ']

namespace Collection

private theorem toList_display (c : Collection) : c.display.toList =
    "Verification Entities [\n".toList ++ (c.entities.flatMap Entity.line ++ [']']) := by
  have hline (entity : Entity) : ("  " ++ entity.display ++ "\n").toList = entity.line := by
    simp [Entity.line]
  unfold display
  rw [String.toList_append, String.toList_append, String.toList_join, List.flatMap_map,
    List.append_assoc]
  simp only [hline]
  rfl

/-- Behind a line another one begins with a blank, or a bracket closes the text. -/
theorem selfDelimiting_display : SelfDelimiting fun c : Collection => c.display.toList := by
  have hlines : SelfDelimiting fun entities : List Entity =>
      entities.flatMap Entity.line ++ [']'] := by
    apply Entity.selfDelimiting_line.flatMap
    simp [Entity.line]
  intro c c' rest rest' heq
  simp only [toList_display] at heq
  obtain ⟨hentities, hrest⟩ := hlines.prepend _ _ _ _ _ heq
  obtain ⟨entities⟩ := c
  exact ⟨congrArg Collection.mk hentities, hrest⟩

/-- The display text of a collection tells its entities and their rules, in their order, whatever
    quotes, brackets, line feeds and escapes the rules hold. -/
theorem display_inj (c c' : Collection) : c.display = c'.display ↔ c = c' := by
  constructor
  · intro heq
    have htexts : c.display.toList ++ [] = c'.display.toList ++ [] := by rw [heq]
    exact (selfDelimiting_display c c' [] [] htexts).1
  · intro heq
    rw [heq]

/-- A rule that holds the end of its line and the beginning of another one. -/
example : (⟨[⟨.uiAlert, ["a\"]\n  UI_ERROR [\"b"]⟩, ⟨.uiAlert, []⟩]⟩ : Collection).display =
    "Verification Entities [\n  UI_ALERT [\"a\\\"]\\n  UI_ERROR [\\\"b\"]\n  UI_ALERT []\n]" := by
  decide +kernel

end Collection

end RuleVerify
