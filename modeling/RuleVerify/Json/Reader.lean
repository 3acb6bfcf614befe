import RuleVerify.Json.Source

namespace RuleVerify.Json

/-- The value of a text in which every part has one and at most `depth` containers are open at a
    time. -/
def Source.value? : Nat → Source → Option Value
  | _, .null => some .null
  | _, .boolean b => some (.boolean b)
  | _, .number value => value
  | _, .string text => text.map .string
  | 0, _ => none
  | depth + 1, .array items => (items.mapM (value? depth)).map .array
  | depth + 1, .object members =>
    let member? (m : Option String × Source) : Option (String × Value) := do
      let name ← m.1
      let value ← value? depth m.2
      pure (name, value)
    (members.mapM member?).map .object

def maxDepth : Nat := 127

/-- The value of a text, its members as they are written. -/
def Value.read? (text : String) : Option Value := Source.ofText? text >>= Source.value? maxDepth

/-- The canonical value of a text. -/
def Value.ofText? (text : String) : Option Value := (Value.read? text).map Value.canonical

end RuleVerify.Json
