import RuleVerify.Error
import RuleVerify.Event
import RuleVerify.Saved

namespace RuleVerify

/-- A line of a session. -/
inductive SessionLine where
  | printed (text : String)
  /-- An event during the verification with that stamp. -/
  | noted (stamp : Stamp) (event : Event)

/-- A computation that prints lines, leaves events and may stop with an error. What was printed
    before the error stays. -/
structure Session (α : Type) where
  lines : List SessionLine
  result : Except Error α

namespace Session

variable {α β : Type}

def pure (a : α) : Session α := ⟨[], .ok a⟩

def bind (s : Session α) (f : α → Session β) : Session β :=
  match s.result with
  | .ok a => ⟨s.lines ++ (f a).lines, (f a).result⟩
  | .error e => ⟨s.lines, .error e⟩

instance : Monad Session where
  pure := Session.pure
  bind := Session.bind

@[simp] theorem result_pure (a : α) : (Pure.pure a : Session α).result = .ok a := rfl

/-- Two sessions in a row end as the second does, or with the error that stopped the first. -/
@[simp] theorem result_bind (s : Session α) (f : α → Session β) :
    (s >>= f).result = s.result.bind fun a => (f a).result := by
  simp only [Bind.bind, bind]
  cases s.result <;> rfl

/-- Prints one line. -/
def say (text : String) : Session Unit := ⟨[.printed text], .ok ()⟩

def sayAll (texts : List String) : Session Unit := ⟨texts.map .printed, .ok ()⟩

/-- Goes on with a result, or stops. -/
def ofExcept (result : Except Error α) : Session α := ⟨[], result⟩

/-- Keeps the events of a computation. -/
def trace (stamp : Stamp) (t : Traced α) : Session α := ⟨t.events.map (.noted stamp), .ok t.value⟩

/-- Keeps the events of a computation, and stops if it failed. -/
def attempt (stamp : Stamp) (t : Traced (Except Error α)) : Session α :=
  ⟨t.events.map (.noted stamp), t.value⟩

@[simp] theorem result_say (text : String) : (say text).result = .ok () := rfl

@[simp] theorem result_sayAll (texts : List String) : (sayAll texts).result = .ok () := rfl

@[simp] theorem result_ofExcept (result : Except Error α) : (ofExcept result).result = result := rfl

/-- A computation whose events are kept cannot stop a session. -/
@[simp] theorem result_trace (stamp : Stamp) (t : Traced α) :
    (trace stamp t).result = .ok t.value := rfl

/-- An attempt ends as its computation does. -/
@[simp] theorem result_attempt (stamp : Stamp) (t : Traced (Except Error α)) :
    (attempt stamp t).result = t.value := rfl

end Session

end RuleVerify
