import RuleVerify.Category
import RuleVerify.Text.Quoted

namespace RuleVerify

/-- The rules of one category. -/
structure Entity where
  category : Category
  rules : List String
deriving DecidableEq, Repr

/-- One line of text: the category and its quoted rules. -/
def Entity.display (entity : Entity) : String :=
  entity.category.token ++ " " ++ Text.quoteList entity.rules

/-- Entities in the order in which their categories were first seen. A collection built by adding
    rules has one entity for a category; a loaded one may have several, of which the first
    counts. -/
structure Collection where
  entities : List Entity
deriving DecidableEq, Repr

namespace Collection

def empty : Collection := ⟨[]⟩

/-- Adds a rule to the first entity of its category, or in a new entity at the end. -/
def appendTo (category : Category) (rule : String) : List Entity → List Entity
  | [] => [⟨category, [rule]⟩]
  | entity :: entities =>
    if entity.category = category then
      { entity with rules := entity.rules ++ [rule] } :: entities
    else entity :: appendTo category rule entities

def appendRule (c : Collection) (category : Category) (rule : String) : Collection :=
  ⟨appendTo category rule c.entities⟩

def appendRules (c : Collection) (category : Category) (rules : List String) : Collection :=
  rules.foldl (fun c rule => c.appendRule category rule) c

def entity? (c : Collection) (category : Category) : Option Entity :=
  c.entities.find? fun entity => entity.category = category

/-- The rules of a category; none when it has no entity. -/
def rules (c : Collection) (category : Category) : List String :=
  ((c.entity? category).map Entity.rules).getD []

def size (c : Collection) : Nat := c.entities.length

def isEmpty (c : Collection) : Bool := c.entities.isEmpty

def display (c : Collection) : String :=
  "Verification Entities [\n" ++
    String.join (c.entities.map fun entity => "  " ++ entity.display ++ "\n") ++ "]"

end Collection

end RuleVerify
