import RuleVerify.Decimal.Layout

namespace RuleVerify.Json

/-- Objects keep the list of their members, which may repeat a name. -/
inductive Value where
  | null
  | boolean (b : Bool)
  /-- An integer between -2^63 and 2^64, which keeps its exact value. -/
  | integer (n : Int)
  /-- Any other number. -/
  | float (x : Float)
  | string (text : String)
  | array (items : List Value)
  | object (members : List (String × Value))

instance : Inhabited Value := ⟨.null⟩

/-- Sets a member of an object whose names are in ascending order. -/
def putMember (name : String) (value : Value) : List (String × Value) → List (String × Value)
  | [] => [(name, value)]
  | (n, v) :: members =>
    if name < n then (name, value) :: (n, v) :: members
    else if n = name then (n, value) :: members
    else (n, v) :: putMember name value members

namespace Value

mutual

/-- Members in the order of their names, without repeated names, at every depth. -/
def canonical : Value → Value
  | .array items => .array (canonicalItems items)
  | .object members =>
    .object ((canonicalMembers members).foldl (fun ms m => putMember m.1 m.2 ms) [])
  | v => v

def canonicalItems : List Value → List Value
  | [] => []
  | item :: items => canonical item :: canonicalItems items

def canonicalMembers : List (String × Value) → List (String × Value)
  | [] => []
  | (name, value) :: members => (name, canonical value) :: canonicalMembers members

end

def member? (name : String) : Value → Option Value
  | .object members => members.lookup name
  | _ => none

/-- The items of an array or the values of the members of an object. -/
def children : Value → List Value
  | .array items => items
  | .object members => members.map Prod.snd
  | _ => []

mutual

/-- A value and all values in it, each before those in it. -/
def descendants : Value → List Value
  | .array items => .array items :: itemDescendants items
  | .object members => .object members :: memberDescendants members
  | v => [v]

def itemDescendants : List Value → List Value
  | [] => []
  | item :: items => descendants item ++ itemDescendants items

def memberDescendants : List (String × Value) → List Value
  | [] => []
  | (_, value) :: members => descendants value ++ memberDescendants members

end

/-- Numbers have at least one decimal, or an exponent outside 0.00001 to 10^16. -/
def numberLayout : Decimal.Layout where
  tie := .toEven
  positional e := -6 < e && e < 16
  wholeMark := ".0"
  plusSign := true
  infinity := "null"
  notANumber := "null"

/-- A character inside a string. Only the quote, the backslash and controls are escaped. -/
def escapeChar (c : Char) : List Char :=
  if c = '"' then ['\\', '"']
  else if c = '\\' then ['\\', '\\']
  else if c = '\x08' then ['\\', 'b']
  else if c = '\x0c' then ['\\', 'f']
  else if c = '\n' then ['\\', 'n']
  else if c = '\r' then ['\\', 'r']
  else if c = '\t' then ['\\', 't']
  else if c.toNat < 0x20 then
    ['\\', 'u', '0', '0', Nat.digitChar (c.toNat / 16), Nat.digitChar (c.toNat % 16)]
  else [c]

def renderString (text : String) : String :=
  String.ofList ('"' :: (text.toList.flatMap escapeChar ++ ['"']))

mutual

/-- Compact text. -/
def render : Value → String
  | .null => "null"
  | .boolean b => if b then "true" else "false"
  | .integer n => toString n
  | .float x => numberLayout.write x
  | .string text => renderString text
  | .array items => "[" ++ String.intercalate "," (renderItems items) ++ "]"
  | .object members => "\x7b" ++ String.intercalate "," (renderMembers members) ++ "\x7d"

def renderItems : List Value → List String
  | [] => []
  | item :: items => render item :: renderItems items

def renderMembers : List (String × Value) → List String
  | [] => []
  | (name, value) :: members =>
    (renderString name ++ ":" ++ render value) :: renderMembers members

end

/-- Brackets around lines, or an empty pair of them. -/
def block (opening closing indent : String) (lines : List String) : String :=
  if lines.isEmpty then opening ++ closing
  else opening ++ "\n" ++ String.intercalate ",\n" (lines.map fun line => indent ++ "  " ++ line) ++
    "\n" ++ indent ++ closing

mutual

/-- Text with one item a line, two blanks deeper at every level. -/
def renderPretty (indent : String) : Value → String
  | .array items => block "[" "]" indent (renderPrettyItems (indent ++ "  ") items)
  | .object members => block "\x7b" "\x7d" indent (renderPrettyMembers (indent ++ "  ") members)
  | v => render v

def renderPrettyItems (indent : String) : List Value → List String
  | [] => []
  | item :: items => renderPretty indent item :: renderPrettyItems indent items

def renderPrettyMembers (indent : String) : List (String × Value) → List String
  | [] => []
  | (name, value) :: members =>
    (renderString name ++ ": " ++ renderPretty indent value) :: renderPrettyMembers indent members

end

end Value

end RuleVerify.Json
