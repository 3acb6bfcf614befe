import RuleVerify.Json.Number

namespace RuleVerify.Json

/-- JSON text by its grammar alone. A number that is too large and a string whose surrogates do not
    pair are well-formed and only lack a value, which does not matter where they are ignored. -/
inductive Source where
  | null
  | boolean (b : Bool)
  | number (value : Option Value)
  | string (text : Option String)
  | array (items : List Source)
  | object (members : List (Option String × Source))

inductive Token where
  | openBracket
  | closeBracket
  | openBrace
  | closeBrace
  | colon
  | comma
  | string (text : Option String)
  /-- A value that is neither a string nor a container. -/
  | atom (source : Source)

def hexDigit? (c : Char) : Option Nat :=
  if '0' ≤ c && c ≤ '9' then some (c.toNat - '0'.toNat)
  else if 'a' ≤ c && c ≤ 'f' then some (c.toNat - 'a'.toNat + 10)
  else if 'A' ≤ c && c ≤ 'F' then some (c.toNat - 'A'.toNat + 10)
  else none

def hexUnit? (a b c d : Char) : Option Nat := do
  let a ← hexDigit? a
  let b ← hexDigit? b
  let c ← hexDigit? c
  let d ← hexDigit? d
  pure (((a * 16 + b) * 16 + c) * 16 + d)

/-- The character that a letter stands for behind a backslash. -/
def simpleEscape? (c : Char) : Option Char :=
  [('"', '"'), ('\\', '\\'), ('/', '/'), ('b', '\x08'), ('f', '\x0c'), ('n', '\n'), ('r', '\r'),
   ('t', '\t')].lookup c

/-- Puts a code unit in front of those of a string, of which `length` characters have been read. -/
def consRead (unit length : Nat) (rest : Option (List Nat × Nat)) : Option (List Nat × Nat) :=
  rest.map fun (units, n) => (unit :: units, n + length)

/-- The contents of a string up to its closing quote, and how many characters that takes, the
    quote included. Escaped surrogates stay by themselves. -/
def readString? : List Char → Option (List Nat × Nat)
  | [] => none
  | '"' :: _ => some ([], 1)
  | '\\' :: 'u' :: a :: b :: c :: d :: cs =>
    match hexUnit? a b c d with
    | none => none
    | some unit => consRead unit 6 (readString? cs)
  | '\\' :: c :: cs =>
    match simpleEscape? c with
    | none => none
    | some e => consRead e.toNat 2 (readString? cs)
  | c :: cs => if c = '\\' || c.toNat < 0x20 then none else consRead c.toNat 1 (readString? cs)

def isHighSurrogate (unit : Nat) : Bool := 0xD800 ≤ unit && unit ≤ 0xDBFF

def isLowSurrogate (unit : Nat) : Bool := 0xDC00 ≤ unit && unit ≤ 0xDFFF

/-- The characters, where two surrogates that make a pair are one and a lone one is an error. -/
def joinSurrogates? : List Nat → Option (List Char)
  | [] => some []
  | unit :: units =>
    if isLowSurrogate unit then none
    else if isHighSurrogate unit then
      match units with
      | low :: units =>
        if isLowSurrogate low then
          let code := 0x10000 + (unit - 0xD800) * 0x400 + (low - 0xDC00)
          (joinSurrogates? units).map (Char.ofNat code :: ·)
        else none
      | [] => none
    else (joinSurrogates? units).map (Char.ofNat unit :: ·)

def isNumberChar (c : Char) : Bool := Decimal.isDigit c || c ∈ ['+', '-', '.', 'e', 'E']

/-- The token at the head of a text and how many characters follow its first one. -/
def token? : List Char → Option (Token × Nat)
  | [] => none
  | '[' :: _ => some (.openBracket, 0)
  | ']' :: _ => some (.closeBracket, 0)
  | '\x7b' :: _ => some (.openBrace, 0)
  | '\x7d' :: _ => some (.closeBrace, 0)
  | ':' :: _ => some (.colon, 0)
  | ',' :: _ => some (.comma, 0)
  | '"' :: cs => (readString? cs).map fun (units, n) =>
    (.string ((joinSurrogates? units).map String.ofList), n)
  | 't' :: 'r' :: 'u' :: 'e' :: _ => some (.atom (.boolean true), 3)
  | 'f' :: 'a' :: 'l' :: 's' :: 'e' :: _ => some (.atom (.boolean false), 4)
  | 'n' :: 'u' :: 'l' :: 'l' :: _ => some (.atom .null, 3)
  | cs =>
    let number := cs.takeWhile isNumberChar
    (Numeral.ofChars? number).map fun n => (.atom (.number n.value?), number.length - 1)

def isSpace (c : Char) : Bool := c = ' ' || c = '\t' || c = '\n' || c = '\r'

/-- The tokens of a text, of which the first `passing` characters belong to a token already read. -/
def tokensPassing? : Nat → List Char → Option (List Token)
  | _, [] => some []
  | passing + 1, _ :: cs => tokensPassing? passing cs
  | 0, c :: cs =>
    if isSpace c then tokensPassing? 0 cs
    else
      match token? (c :: cs) with
      | none => none
      | some (token, more) => (tokensPassing? more cs).map (token :: ·)

/-- A container under construction, with its contents in reverse. There is one for each open
    bracket. -/
inductive Frame where
  | items (before : List Source)
  /-- The members so far, and the name of the next one. -/
  | members (before : List (Option String × Source)) (name : Option String)

/-- What the text has to go on with. -/
inductive Expect where
  | value
  | itemOrClose
  | nameOrClose
  | name (before : List (Option String × Source))
  /-- A value is complete. -/
  | next (source : Source)

/-- Reads the tokens of one value, given the containers that are open around it. -/
def assemble? : Expect → List Frame → List Token → Option Source
  | .next v, [], [] => some v
  | _, _, [] => none
  | .next v, .items before :: frames, .comma :: ts =>
    assemble? .value (.items (v :: before) :: frames) ts
  | .next v, .items before :: frames, .closeBracket :: ts =>
    assemble? (.next (.array (v :: before).reverse)) frames ts
  | .next v, .members before name :: frames, .comma :: ts =>
    assemble? (.name ((name, v) :: before)) frames ts
  | .next v, .members before name :: frames, .closeBrace :: ts =>
    assemble? (.next (.object ((name, v) :: before).reverse)) frames ts
  | .name before, frames, .string name :: .colon :: ts =>
    assemble? .value (.members before name :: frames) ts
  | .nameOrClose, frames, .string name :: .colon :: ts =>
    assemble? .value (.members [] name :: frames) ts
  | .nameOrClose, frames, .closeBrace :: ts => assemble? (.next (.object [])) frames ts
  | .itemOrClose, frames, .closeBracket :: ts => assemble? (.next (.array [])) frames ts
  | .value, frames, t :: ts => begin? frames t ts
  | .itemOrClose, frames, t :: ts => begin? (.items [] :: frames) t ts
  | _, _, _ => none
where
  /-- The first token of a value. -/
  begin? (frames : List Frame) (t : Token) (ts : List Token) : Option Source :=
    match t with
    | .atom v => assemble? (.next v) frames ts
    | .string text => assemble? (.next (.string text)) frames ts
    | .openBracket => assemble? .itemOrClose frames ts
    | .openBrace => assemble? .nameOrClose frames ts
    | _ => none

def Source.ofText? (text : String) : Option Source := do
  let ts ← tokensPassing? 0 text.toList
  assemble? .value [] ts

end RuleVerify.Json
