import RuleVerify.Json.Compare
import RuleVerify.Text.Pattern

namespace RuleVerify.JsonPath

open Json (Value)

/-- One step of a query that selects at most one node. A negative index leads nowhere. -/
inductive Step where
  | name (name : String)
  | index (i : Int)

inductive Comparison where
  | equal
  | unequal
  | less
  | atMost
  | greater
  | atLeast
deriving DecidableEq

mutual

inductive Query where
  /-- Begins at the root if it is absolute, else at the current value. -/
  | mk (absolute : Bool) (segments : List Segment)

inductive Segment where
  | child (selectors : List Selector)
  | descendant (selectors : List Selector)

inductive Selector where
  | name (name : String)
  | wildcard
  | index (i : Int)
  | slice (start stop : Option Int) (step : Int)
  | filter (test : Test)

inductive Test where
  | or (a b : Test)
  | and (a b : Test)
  | not (a : Test)
  | compare (relation : Comparison) (left right : Operand)
  /-- The query selects something. -/
  | selects (query : Query)
  /-- A text matches a pattern as a whole, or somewhere. -/
  | matching (whole : Bool) (text pattern : Operand)

/-- What stands for at most one value. -/
inductive Operand where
  | literal (value : Value)
  | singular (absolute : Bool) (steps : List Step)
  | length (of : Operand)
  | count (query : Query)
  | value (query : Query)

end

/-- The item at an index, which counts from the end if it is negative. -/
def item? (items : List Value) (i : Int) : Option Value :=
  let i := if i < 0 then items.length + i else i
  if i < 0 then none else items[i.toNat]?

def Step.follow? : Step → Value → Option Value
  | .name text, v => v.member? text
  | .index i, .array items => if i < 0 then none else items[i.toNat]?
  | .index _, _ => none

/-- The indexes of a slice of an array of the given length, in order. A bound counts from the end
    if it is negative, and a step of zero takes nothing. -/
def sliceIndexes (length : Nat) (start stop : Option Int) (step : Int) : List Nat :=
  let place (i : Int) : Int := if i < 0 then length + i else i
  if 0 < step then
    let low := max 0 ((start.map place).getD 0)
    let high := (stop.map place).getD length
    (List.range length).filter fun i => low ≤ i && i < high && (Int.ofNat i - low) % step = 0
  else if step < 0 then
    let high := min (Int.ofNat length - 1) ((start.map place).getD (Int.ofNat length - 1))
    let low := (stop.map place).getD (-1)
    (List.range length).reverse.filter fun i =>
      low < i && i ≤ high && (high - Int.ofNat i) % -step = 0
  else []

/-- The number of characters, items or members. -/
def length? : Value → Option Nat
  | .string s => some s.length
  | .array items => some items.length
  | .object members => some members.length
  | _ => none

/-- Numbers and texts have an order; other values are never less. -/
def isLess (a b : Value) : Bool :=
  match a, b with
  | .string a, .string b => a < b
  | a, b =>
    match a.float?, b.float? with
    | some x, some y => x < y
    | _, _ => false

/-- Numbers are equal when they are nearest to the same binary64 number, other values when they are
    identical. -/
def isEqual (a b : Value) : Bool :=
  match a.float?, b.float? with
  | some x, some y => x == y
  | _, _ => a.identical b

inductive Kind where
  | null
  | boolean
  | number
  | string
  | array
  | object
deriving DecidableEq

def kindOf : Value → Kind
  | .null => .null
  | .boolean _ => .boolean
  | .integer _ => .number
  | .float _ => .number
  | .string _ => .string
  | .array _ => .array
  | .object _ => .object

/-- No value equals no value. Only values of one kind have an order, in which one that is neither
    less nor equal is greater. -/
def Comparison.holds (left right : Option Value) (c : Comparison) : Bool :=
  match left, right with
  | some a, some b =>
    let ordered := kindOf a = kindOf b
    match c with
    | .equal => isEqual a b
    | .unequal => !isEqual a b
    | .less => ordered && isLess a b
    | .atMost => ordered && (isLess a b || isEqual a b)
    | .greater => ordered && !isLess a b && !isEqual a b
    | .atLeast => ordered && !isLess a b
  | none, none => c = .equal
  | _, _ => c = .unequal

/-- In patterns, `.` is any character but a line feed or a carriage return. -/
def isLineEnd (c : Char) : Bool := c = '\n' || c = '\r'

/-- Both operands are texts, and the second is a pattern that the first matches. -/
def matchesText (whole : Bool) : Option Value → Option Value → Bool
  | some (.string text), some (.string pattern) =>
    match Text.Pattern.ofText? pattern with
    | none => false
    | some p =>
      if whole then p.matchesAll isLineEnd text.toList else p.occursIn isLineEnd text.toList
  | _, _ => false

mutual

/-- The nodes that a query selects, in order. -/
def Query.nodes (root : Value) : Query → Value → List Value
  | .mk absolute segments, v => followAll root segments [if absolute then root else v]

def followAll (root : Value) : List Segment → List Value → List Value
  | [], nodes => nodes
  | segment :: segments, nodes =>
    followAll root segments (nodes.flatMap fun v => segment.follow root v)

def Segment.follow (root : Value) : Segment → Value → List Value
  | .child selectors, v => selectAll root selectors v
  | .descendant selectors, v => v.descendants.flatMap fun d => selectAll root selectors d

def selectAll (root : Value) : List Selector → Value → List Value
  | [], _ => []
  | selector :: selectors, v => selector.select root v ++ selectAll root selectors v

def Selector.select (root : Value) : Selector → Value → List Value
  | .name name, v => (v.member? name).toList
  | .wildcard, v => v.children
  | .index i, .array items => (item? items i).toList
  | .slice start stop step, .array items =>
    (sliceIndexes items.length start stop step).filterMap fun i => items[i]?
  | .filter test, v => v.children.filter fun child => test.holds root child
  | _, _ => []

def Test.holds (root : Value) : Test → Value → Bool
  | .or a b, v => a.holds root v || b.holds root v
  | .and a b, v => a.holds root v && b.holds root v
  | .not a, v => !a.holds root v
  | .compare relation left right, v => relation.holds (left.value? root v) (right.value? root v)
  | .selects query, v => !(query.nodes root v).isEmpty
  | .matching whole text pattern, v =>
    matchesText whole (text.value? root v) (pattern.value? root v)

def Operand.value? (root : Value) : Operand → Value → Option Value
  | .literal value, _ => some value
  | .singular absolute steps, v =>
    steps.foldlM (fun v step => step.follow? v) (if absolute then root else v)
  | .length of, v => (of.value? root v >>= length?).map fun n => .integer n
  | .count query, v => some (.integer (query.nodes root v).length)
  | .value query, v =>
    match query.nodes root v with
    | [node] => some node
    | _ => none

end

end RuleVerify.JsonPath
