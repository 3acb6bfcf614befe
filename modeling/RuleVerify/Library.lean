import RuleVerify.Expr.Builtin
import RuleVerify.Text.Split

namespace RuleVerify

/-- A named set of functions that rule expressions can use once it is loaded. -/
structure Library where
  name : String
  functions : List (String × Expr.Function)

namespace Library

open RuleVerify.Expr (Value Fault Function)

/-- The arguments that a value stands for: the items of a tuple, none, or the value itself. -/
def arguments : Value → List Value
  | .tuple items => items
  | .empty => []
  | v => [v]

def twoArguments (function : String) (argument : Value) : Except Fault (Value × Value) :=
  match arguments argument with
  | [a, b] => pure (a, b)
  | other => throw (.argumentCount function 2 other.length)

/-- The text of a value. A tuple has none. -/
def text : Value → Except Fault String
  | .string s => pure s
  | .int n => pure (Value.intText n)
  | .float x => pure (Value.floatText x)
  | .boolean b => pure (Value.booleanText b)
  | .empty => pure ""
  | .tuple _ => throw .tupleHasNoText

/-- Compares the texts of two arguments. -/
def onTexts (function : String) (test : List Char → List Char → Bool) : Function := fun v => do
  let (a, b) ← twoArguments function v
  let s ← text a
  let t ← text b
  pure (.boolean (test s.toList t.toList))

/-- A tuple includes its items, any other value the texts inside its own. -/
def includes : Function := fun v => do
  let (a, b) ← twoArguments "_.includes" v
  match a with
  | .tuple items => pure (.boolean (items.contains b))
  | a => do
    let s ← text a
    let t ← text b
    pure (.boolean (Text.occursIn t.toList s.toList))

def startsWith : Function := onTexts "_.startsWith" fun s t => t.isPrefixOf s

def endsWith : Function := onTexts "_.endsWith" fun s t => t.isSuffixOf s

/-- Values without parts count as empty. -/
def isEmpty : Function
  | .string s => pure (.boolean s.isEmpty)
  | .tuple items => pure (.boolean items.isEmpty)
  | _ => pure (.boolean true)

def eq : Function := fun v => do
  let (a, b) ← twoArguments "_.eq" v
  pure (.boolean (a == b))

def onText (f : List Char → List Char) : Function := fun v => do
  let s ← text v
  pure (.string (String.ofList (f s.toList)))

/-- The number of characters or items. -/
def size : Function
  | .string s => pure (.int (Int64.ofNat s.length))
  | .tuple items => pure (.int (Int64.ofNat items.length))
  | .empty => pure (.int 0)
  | v => throw (.noSize v)

/-- Functions on texts and collections. -/
def lodash : Library where
  name := "lodash"
  functions :=
    [("_.includes", includes), ("_.startsWith", startsWith), ("_.endsWith", endsWith),
     ("_.isEmpty", isEmpty), ("_.eq", eq), ("_.toLower", onText Text.toLower),
     ("_.toUpper", onText Text.toUpper), ("_.trim", onText Text.trim), ("_.size", size)]

def known : List Library := [lodash]

def functionNames (library : Library) : List String := library.functions.map Prod.fst

/-- The library that an identifier names: by its name in any case, or by a path that holds the
    name. -/
def resolve? (identifier : String) : Option Library :=
  let word := Text.toLowerAscii (Text.trim identifier.toList)
  if word.isEmpty then none
  else known.find? fun library => Text.occursIn library.name.toList word

end Library

end RuleVerify
