import RuleVerify.Entity
import RuleVerify.Event
import RuleVerify.Text.Split

namespace RuleVerify.Definition

/-- What a block turns out to be. -/
inductive Block where
  | blank
  /-- The category delimiter cuts the block into another number of parts than two. -/
  | malformed (parts : Nat)
  | unknown (token : List Char)
  | bodiless (category : Category)
  | rules (category : Category) (texts : List (List Char))

/-- The rules of a body: its pieces without the white space around them, blank ones left out. -/
def bodyRules (delimiters : Delimiters) (body : List Char) : List (List Char) :=
  ((Text.splitOn delimiters.rules.toList (Text.trim body)).map Text.trim).filter (!·.isEmpty)

def readBlock (delimiters : Delimiters) (block : List Char) : Block :=
  if Text.allBlank block then .blank
  else
    match Text.splitOn delimiters.category.toList (Text.trim block) with
    | [token, body] =>
      match Category.ofToken? token with
      | none => .unknown token
      | some category =>
        if Text.allBlank body then .bodiless category
        else .rules category (bodyRules delimiters body)
    | parts => .malformed parts.length

/-- The event that a block leaves when it is dropped. -/
def Block.event? (text : List Char) : Block → Option Event
  | .blank | .rules _ _ => none
  | .malformed parts => some (.blockMalformed (String.ofList text) parts)
  | .unknown token => some (.blockUnknown (String.ofList token))
  | .bodiless category => some (.blockEmpty category)

/-- Adds the rules of a block to a collection. -/
def Block.addTo (c : Collection) : Block → Collection
  | .rules category texts => c.appendRules category (texts.map String.ofList)
  | _ => c

/-- The blocks of a definition as they are cut. -/
def blocks (delimiters : Delimiters) (definition : String) : List (List Char) :=
  Text.splitOn delimiters.types.toList (Text.trim definition.toList)

/-- The rules of a definition by category. Reading never fails: a block that is not a category and a
    body contributes nothing. -/
def parse (delimiters : Delimiters) (definition : String) : Collection :=
  (blocks delimiters definition).foldl (fun c block => (readBlock delimiters block).addTo c) .empty

/-- Reads a definition and notes every block that is dropped. -/
def read (delimiters : Delimiters) (definition : String) : Traced Collection :=
  let c := parse delimiters definition
  let dropped := (blocks delimiters definition).filterMap fun block =>
    (readBlock delimiters block).event? block
  ⟨c, dropped ++ [.definitionRead c.size]⟩

end RuleVerify.Definition
