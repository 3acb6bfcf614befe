import RuleVerify.Entity
import RuleVerify.Json.Reader
import RuleVerify.Report
import RuleVerify.Timestamp
import RuleVerify.Uuid

namespace RuleVerify

open Json (Source Value)

namespace Saved

/-- What stands under a name that an object has once. -/
def single? (members : List (String × Source)) (name : String) : Option Source :=
  match members.filter fun m => m.1 = name with
  | [(_, source)] => some source
  | _ => none

/-- The members of a structure, all of whose names have to be readable. -/
def named? (members : List (Option String × Source)) : Option (List (String × Source)) :=
  members.mapM fun m => m.1.map fun name => (name, m.2)

/-- The fields of a structure: those of an object, of which members with other names are ignored
    whatever they hold, or an array of exactly the fields in order. -/
def fields? (names : List String) : Source → Option (List Source)
  | .object members => do names.mapM (single? (← named? members))
  | .array items => if items.length = names.length then some items else none
  | _ => none

def string? : Source → Option String
  | .string text => text
  | _ => none

def list? {α : Type} (read : Source → Option α) : Source → Option (List α)
  | .array items => items.mapM read
  | _ => none

/-- A name without contents: a string, or the only member of an object and null. -/
def name? : Source → Option String
  | .string text => text
  | .object [(name, .null)] => name
  | _ => none

end Saved

open Saved

def Category.toJson (category : Category) : Value := .string category.token

def Category.ofJson? (source : Source) : Option Category := name? source >>= Category.ofExactToken?

namespace Entity

def toJson (entity : Entity) : Value :=
  .object [("category", entity.category.toJson), ("rules", .array (entity.rules.map .string))]

def ofJson? (source : Source) : Option Entity := do
  match ← fields? ["category", "rules"] source with
  | [category, rules] =>
    let category ← Category.ofJson? category
    let rules ← list? string? rules
    pure ⟨category, rules⟩
  | _ => none

end Entity

namespace Collection

def toJson (c : Collection) : Value := .object [("entities", .array (c.entities.map Entity.toJson))]

def ofJson? (source : Source) : Option Collection := do
  match ← fields? ["entities"] source with
  | [entities] =>
    let entities ← list? Entity.ofJson? entities
    pure ⟨entities⟩
  | _ => none

def load? (text : String) : Option Collection := Source.ofText? text >>= ofJson?

end Collection

namespace Verdict

def toJson : Verdict → Value
  | .holds => .string "True"
  | .fails => .string "False"
  | .broken reason => .object [("Broken", .object [("reason", .string reason)])]

def ofJson? (source : Source) : Option Verdict :=
  match source with
  | .object [(some "Broken", body)] => do
    match ← fields? ["reason"] body with
    | [reason] => (string? reason).map .broken
    | _ => none
  | _ =>
    match name? source with
    | some "True" => some .holds
    | some "False" => some .fails
    | _ => none

end Verdict

namespace Outcome

def toJson (outcome : Outcome) : Value :=
  .object [("expression", .string outcome.expression), ("verdict", outcome.verdict.toJson)]

def ofJson? (source : Source) : Option Outcome := do
  match ← fields? ["expression", "verdict"] source with
  | [expression, verdict] =>
    let expression ← string? expression
    let verdict ← Verdict.ofJson? verdict
    pure ⟨expression, verdict⟩
  | _ => none

end Outcome

/-- The texts that identify a run: its identifier and the time of its evaluation. -/
structure Stamp where
  id : String
  time : String

/-- A report as it is saved, under the stamp of its run. -/
def Report.toJson (stamp : Stamp) (report : Report) : Value :=
  .object
    [("verification_id", .string stamp.id), ("category", report.category.toJson),
     ("evaluated_at", .string stamp.time),
     ("outcomes", .array (report.outcomes.map Outcome.toJson))]

/-- Reads a saved report. The identifier and the time come back in canonical form. -/
def Report.ofJson? (source : Source) : Option (Stamp × Report) := do
  match ← fields? ["verification_id", "category", "evaluated_at", "outcomes"] source with
  | [id, category, time, outcomes] =>
    let id ← string? id >>= Uuid.ofText?
    let category ← Category.ofJson? category
    let time ← string? time >>= Timestamp.ofText?
    let outcomes ← list? Outcome.ofJson? outcomes
    pure (⟨id.render, time.render⟩, ⟨category, outcomes⟩)
  | _ => none

def Report.load? (text : String) : Option (Stamp × Report) := Source.ofText? text >>= Report.ofJson?

end RuleVerify
