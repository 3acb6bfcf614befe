import RuleVerify.Category
import RuleVerify.Delimiters
import RuleVerify.Verdict

namespace RuleVerify

/-- The language of a payload query. -/
inductive QueryLanguage where
  | xpath
  | jsonPath
deriving DecidableEq, Repr

/-- What happens while rules are read and verified. Every step that asks an evaluator or a source
    leaves an event, and so does every step that a log may mention. -/
inductive Event where
  | configResolved (delimiters : Delimiters) (libraries : List String)
  /-- A block of a definition that is not a category and a body. -/
  | blockMalformed (block : String) (parts : Nat)
  | blockUnknown (token : String)
  | blockEmpty (category : Category)
  | definitionRead (entities : Nat)
  | libraryLoaded (name : String)
  | libraryUnknown (identifier : String)
  | schemaSkipped (schema : String)
  | schemaSatisfied (schema : String)
  | schemaViolated (schema : String) (violations : Nat)
  | payloadConforms (schema : String)
  | nothingToVerify (category : Category)
  | nothingToCapture (category : Category)
  | noResponseRules
  /-- The source of runtime values was asked. -/
  | captureAsked
  | captured (category : Category) (values : Nat)
  | responseBegun (contentType : String) (rules : Nat)
  /-- A query evaluator was asked. -/
  | queryAsked (language : QueryLanguage) (query : String)
  | extracted (query : String) (answer : String)
  | verificationBegun (category : Category) (rules : Nat)
  /-- The boolean evaluator was asked. -/
  | evaluated (expression : String) (verdict : Verdict)
  | recorded (expression : String) (verdict : Verdict)
  | verificationEnded (category : Category) (evaluated : Nat) (failures : Nat)
deriving DecidableEq, Repr

/-- A value and the events on the way to it. -/
@[ext] structure Traced (α : Type) where
  value : α
  events : List Event

namespace Traced

def pure {α : Type} (a : α) : Traced α := ⟨a, []⟩

def bind {α β : Type} (t : Traced α) (f : α → Traced β) : Traced β :=
  ⟨(f t.value).value, t.events ++ (f t.value).events⟩

instance : Monad Traced where
  pure := Traced.pure
  bind := Traced.bind

@[simp] theorem value_pure {α : Type} (a : α) : (Pure.pure a : Traced α).value = a := rfl

@[simp] theorem events_pure {α : Type} (a : α) : (Pure.pure a : Traced α).events = [] := rfl

/-- The value of two computations in a row is that of the second, whatever events the first left. -/
@[simp] theorem value_bind {α β : Type} (t : Traced α) (f : α → Traced β) :
    (t >>= f).value = (f t.value).value := rfl

/-- The events of two computations in a row stand in that order. -/
@[simp] theorem events_bind {α β : Type} (t : Traced α) (f : α → Traced β) :
    (t >>= f).events = t.events ++ (f t.value).events := rfl

/-- A loop computes the same values with its events as without them. -/
theorem value_foldlM {α β : Type} (f : α → β → Traced α) (a : α) (bs : List β) :
    (bs.foldlM f a).value = bs.foldl (fun a b => (f a b).value) a := by
  induction bs generalizing a with
  | nil => rfl
  | cons b bs ih => rw [List.foldlM_cons, value_bind, ih, List.foldl_cons]

/-- Leaves one event. -/
def note (event : Event) : Traced Unit := ⟨(), [event]⟩

@[simp] theorem events_note (event : Event) : (note event).events = [event] := rfl

end Traced

end RuleVerify
