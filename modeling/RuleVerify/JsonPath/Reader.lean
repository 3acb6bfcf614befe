import RuleVerify.Json.Reader
import RuleVerify.JsonPath.Query
import RuleVerify.Verdict

namespace RuleVerify.JsonPath

open Json (Value)
open Text (Scan)
open Text.Scan

def blanks : Scan Unit := skipWhile Json.isSpace

/-- A separator with white space around it. -/
def spaced (text : String) : Scan Unit := blanks *> word text <* blanks

def isNameFirst (c : Char) : Bool := c.isAlpha || c = '_' || 0x80 ≤ c.toNat

def name : Scan String := do
  let first ← satisfy isNameFirst
  let rest ← takeWhile fun c => isNameFirst c || Decimal.isDigit c
  pure (String.ofList (first :: rest))

/-- Four hexadecimal digits. -/
def hexUnit : Scan Nat
  | a :: b :: c :: d :: cs => (Json.hexUnit? a b c d).map (·, cs)
  | _ => none

/-- The first surrogate of a pair, whose first two digits have to be in upper case. -/
def highSurrogate : Scan Nat := fun cs =>
  if (cs.take 2).any Char.isLower then none
  else (hexUnit cs).filter fun (unit, _) => Json.isHighSurrogate unit

/-- The character of one unit or of a pair of surrogates. -/
def unitChar : Scan Char :=
  (do
    let high ← highSurrogate
    word "\\u"
    let low ← hexUnit
    match Json.joinSurrogates? [high, low] with
    | some [c] => pure c
    | _ => failure) <|> do
    let unit ← hexUnit
    match Json.joinSurrogates? [unit] with
    | some [c] => pure c
    | _ => failure

/-- What stands behind a backslash between two of the given quotes. -/
def escaped (quote : Char) : Scan Char := do
  match ← satisfy fun _ => true with
  | 'u' => unitChar
  | c =>
    if c = quote then pure c
    else if c = '"' then failure
    else match Json.simpleEscape? c with
      | some e => pure e
      | none => failure

def quotedBy (quote : Char) : Scan String := do
  char quote
  let text ← many <|
    satisfy (fun c => c ≠ quote && c ≠ '\\' && 0x20 ≤ c.toNat) <|> (char '\\' *> escaped quote)
  char quote
  pure (String.ofList text)

def quoted : Scan String := quotedBy '\'' <|> quotedBy '"'

/-- Integers are exact in binary64 and have neither a leading zero nor a negative zero. -/
def integer : Scan Int := do
  let negative ← accept "-"
  let digits ← takeSome Decimal.isDigit
  let n := Decimal.natOfDigits digits
  if !Json.isWhole digits || (negative && n = 0) || Nat.pow 2 53 ≤ n then failure
  else pure (if negative then -n else n)

def number : Scan Value := do
  let text ← takeSome Json.isNumberChar
  match Json.readNumber? text with
  | some v => pure v
  | none => failure

def literal : Scan Value :=
  (.string <$> quoted) <|> number <|> (word "true" *> pure (.boolean true)) <|>
    (word "false" *> pure (.boolean false)) <|> (word "null" *> pure .null)

def step : Scan Step :=
  (char '.' *> (Step.name <$> name)) <|>
    (char '[' *> blanks *> ((Step.name <$> quoted) <|> (Step.index <$> integer)) <* blanks <*
      char ']')

/-- The mark at the front of a query; an absolute one begins with a dollar. -/
def origin : Scan Bool := (char '$' *> pure true) <|> (char '@' *> pure false)

def singular : Scan Operand := do
  let absolute ← origin
  return .singular absolute (← many (blanks *> step))

def slice : Scan Selector := do
  let start ← optional? integer
  spaced ":"
  let stop ← optional? integer
  let step ← optional? (spaced ":" *> optional? integer)
  pure (.slice start stop ((step.bind id).getD 1))

/-- A selector; `test` reads the test of a filter. -/
def selector (test : Scan Test) : Scan Selector :=
  (Selector.name <$> quoted) <|> (char '*' *> pure .wildcard) <|> slice <|>
    (Selector.index <$> integer) <|> (char '?' *> blanks *> (Selector.filter <$> test))

def bracketed (test : Scan Test) : Scan (List Selector) :=
  char '[' *> blanks *> separated (selector test) (spaced ",") <* blanks <* char ']'

def bareSelector : Scan Selector :=
  (char '*' *> pure .wildcard) <|> (Selector.name <$> name)

/-- A segment, with white space only before one that leads to children. -/
def segment (test : Scan Test) : Scan Segment :=
  (word ".." *> (Segment.descendant <$> (bracketed test <|> List.singleton <$> bareSelector))) <|>
    (blanks *>
      (Segment.child <$> (bracketed test <|> (char '.' *> (List.singleton <$> bareSelector)))))

def query (test : Scan Test) : Scan Query := do
  let absolute ← origin
  return .mk absolute (← many (segment test))

/-- The arguments of a function, read by `arguments`. -/
def call {α : Type} (function : String) (arguments : Scan α) : Scan α :=
  word function *> char '(' *> blanks *> arguments <* blanks <* char ')'

def operand (test : Scan Test) : Nat → Scan Operand
  | 0 => failure
  | depth + 1 =>
    (Operand.literal <$> literal) <|>
      call "length" (Operand.length <$> operand test depth) <|>
      call "count" (Operand.count <$> query test) <|>
      call "value" (Operand.value <$> query test) <|> singular

def comparison : Scan Comparison :=
  (word "==" *> pure .equal) <|> (word "!=" *> pure .unequal) <|> (word "<=" *> pure .atMost) <|>
    (word ">=" *> pure .atLeast) <|> (word "<" *> pure .less) <|> (word ">" *> pure .greater)

/-- Operands of one call, whose depth the length of the text bounds. -/
def anyOperand (test : Scan Test) : Scan Operand := fun cs => operand test (cs.length + 1) cs

def compared (test : Scan Test) : Scan Test := do
  let left ← anyOperand test
  blanks
  let relation ← comparison
  blanks
  return .compare relation left (← anyOperand test)

def matchCall (test : Scan Test) (function : String) (whole : Bool) : Scan Test :=
  call function do
    let text ← anyOperand test
    spaced ","
    return .matching whole text (← anyOperand test)

/-- A comparison, or something that may be negated; `test` reads what parentheses enclose. -/
def basicTest (test : Scan Test) : Scan Test :=
  compared test <|> do
    let negated ← optional? (char '!' *> blanks)
    let t ← (char '(' *> blanks *> test <* blanks <* char ')') <|>
      matchCall test "match" true <|> matchCall test "search" false <|>
      (Test.selects <$> query test)
    pure (if negated.isSome then .not t else t)

/-- Joins tests that stand in a row. -/
def joined (join : Test → Test → Test) (mark : String) (part : Scan Test) : Scan Test := do
  let first ← part
  return (← many (spaced mark *> part)).foldl join first

/-- A test with at most `depth` tests around one another. -/
def testWithin : Nat → Scan Test
  | 0 => failure
  | depth + 1 => joined .or "||" (joined .and "&&" (basicTest (testWithin depth)))

/-- The query that a text writes, which has to begin at the root. -/
def Query.ofText? (text : String) : Option Query :=
  match text.toList with
  | '$' :: _ => run? (query (testWithin text.length)) text.toList
  | _ => none

/-- A text as it is, any other value as compact JSON. -/
def answerText : Value → String
  | .string s => s
  | v => v.render

/-- The text of the first node, or nothing. -/
def evaluate : QueryEvaluator := fun query payload =>
  match Query.ofText? query, Value.ofText? payload with
  | some q, some root => ((q.nodes root root).head?.map answerText).getD ""
  | _, _ => ""

end RuleVerify.JsonPath
