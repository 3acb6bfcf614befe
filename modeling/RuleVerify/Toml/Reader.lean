import RuleVerify.Text.Scan
import RuleVerify.Toml.Scalar

namespace RuleVerify.Toml

open Text (Scan)
open Text.Scan

def isSpace (c : Char) : Bool := c = ' ' || c = '\t'

def spaces : Scan Unit := skipWhile isSpace

/-- A character that may stand in strings and comments as it is. -/
def isTextChar (c : Char) : Bool := c = '\t' || (0x20 ≤ c.toNat && c ≠ '\x7f')

def newline : Scan Unit := word "\n" <|> word "\r\n"

/-- A comment up to the end of its line. -/
def comment : Scan Unit := char '#' *> skipWhile isTextChar

/-- What may stand behind the last part of a line. -/
def lineEnd : Scan Unit := do
  spaces
  let _ ← optional? comment
  if ← atEnd then pure () else newline

def hexValue? (cs : List Char) : Option Nat :=
  if cs.all isHexDigit then some (cs.foldl (fun n c => 16 * n + digitValue c) 0) else none

/-- The character with a code of `length` hexadecimal digits. -/
def coded (length : Nat) : Scan Char := fun cs => do
  let digits := cs.take length
  let n ← hexValue? digits
  if digits.length = length && n.isValidChar then pure (Char.ofNat n, cs.drop length) else none

/-- What a backslash and the characters behind it stand for. -/
def escaped : Scan Char := do
  char '\\'
  match ← satisfy fun _ => true with
  | 'b' => pure '\x08'
  | 't' => pure '\t'
  | 'n' => pure '\n'
  | 'f' => pure '\x0c'
  | 'r' => pure '\r'
  | '"' => pure '"'
  | '\\' => pure '\\'
  | 'u' => coded 4
  | 'U' => coded 8
  | _ => failure

/-- A string on one line. -/
def basicString : Scan String := do
  char '"'
  let text ← many (satisfy (fun c => isTextChar c && c ≠ '"' && c ≠ '\\') <|> escaped)
  char '"'
  pure (String.ofList text)

/-- A string on one line, without escapes. -/
def literalString : Scan String := do
  char '\''
  let text ← takeWhile fun c => isTextChar c && c ≠ '\''
  char '\''
  pure (String.ofList text)

/-- One or two quotes that do not end a string of several lines. -/
def innerQuotes (quote : Char) : Scan (List Char) := fun cs =>
  let quotes := cs.takeWhile (· = quote)
  if quotes.isEmpty || 2 < quotes.length then none else some (quotes, cs.drop quotes.length)

/-- The end of a string of several lines: three quotes, and up to two before them that belong to
    the text. -/
def closing (quote : Char) : Scan (List Char) := fun cs =>
  let quotes := cs.takeWhile (· = quote)
  if quotes.length < 3 || 5 < quotes.length then none
  else some (quotes.drop 3, cs.drop quotes.length)

/-- A backslash at the end of a line takes all white space up to the next text with it. -/
def lineContinuation : Scan Unit := do
  char '\\'
  spaces
  newline
  let _ ← many (Text.Scan.takeSome isSpace *> pure () <|> newline)

def longString (quote : Char) (piece : Scan (List Char)) : Scan String := do
  let mark := String.ofList [quote, quote, quote]
  word mark
  let _ ← optional? newline
  let pieces ← many (innerQuotes quote <|> piece <|> (newline *> pure ['\n']))
  let rest ← closing quote
  pure (String.ofList (pieces.flatten ++ rest))

def longBasicString : Scan String :=
  longString '"'
    ((fun c => [c]) <$> satisfy (fun c => isTextChar c && c ≠ '"' && c ≠ '\\') <|>
      (lineContinuation *> pure []) <|> (fun c => [c]) <$> escaped)

def longLiteralString : Scan String :=
  longString '\'' ((fun c => [c]) <$> satisfy fun c => isTextChar c && c ≠ '\'')

def isKeyChar (c : Char) : Bool :=
  Decimal.isDigit c || ('a' ≤ c && c ≤ 'z') || ('A' ≤ c && c ≤ 'Z') || c = '_' || c = '-'

def simpleKey : Scan String :=
  basicString <|> literalString <|> String.ofList <$> takeSome isKeyChar

/-- A key with the keys before its dots. -/
def key : Scan (List String × String) := do
  let keys ← separated (spaces *> simpleKey <* spaces) (char '.')
  match keys.getLast? with
  | some last => pure (keys.dropLast, last)
  | none => failure

/-- White space, line ends and comments inside an array. -/
def filler : Scan Unit := do
  let _ ← many (takeSome isSpace *> pure () <|> newline <|> comment)

def isScalarChar (c : Char) : Bool :=
  isKeyChar c || c = '+' || c = '.' || c = ':'

/-- A scalar without quotes. A date may have a time behind one blank. -/
def scalar : Scan Node := do
  let run ← takeSome isScalarChar
  let tail ← if (afterDate? run) = some [] then
      optional? (do
        char ' '
        let time ← takeSome isScalarChar
        if isMoment (run ++ ' ' :: time) then pure (' ' :: time) else failure)
    else pure none
  match scalar? (run ++ tail.getD []) with
  | some node => pure node
  | none => failure

/-- The table of key and value pairs in braces. -/
def inlineTable? (entries : List ((List String × String) × Node)) : Option Node := do
  let table ← entries.foldlM
    (fun table ((path, name), value) => Node.insertKey path name value table)
    Node.emptyDocument
  match table with
  | .table _ members => pure (.table .inline members)
  | _ => none

/-- The depth at which containers inside containers end. -/
def maxDepth : Nat := 80

/-- A value with at most `depth` containers around one another. -/
def value : Nat → Scan Node
  | 0 => failure
  | depth + 1 =>
    (Node.string <$> (longBasicString <|> basicString <|> longLiteralString <|> literalString)) <|>
    (do
      char '['
      filler
      let items ← optional? (separated (value depth <* filler) (char ',' *> filler))
      if items.isSome then
        let _ ← optional? (char ',' *> filler)
      char ']'
      pure (.array (items.getD []))) <|>
    (do
      char '\x7b'
      spaces
      let entry : Scan ((List String × String) × Node) := do
        let k ← key
        char '='
        spaces
        let v ← value depth
        spaces
        pure (k, v)
      let entries ← optional? (separated entry (char ','))
      char '\x7d'
      match inlineTable? (entries.getD []) with
      | some table => pure table
      | none => failure) <|>
    scalar

/-- A line of a document. -/
inductive Line where
  | blank
  | assignment (path : List String) (name : String) (value : Node)
  | header (path : List String) (name : String)
  | element (path : List String) (name : String)

def line : Scan Line := do
  spaces
  let line ← (do
      word "[["
      let (path, name) ← key
      word "]]"
      pure (Line.element path name)) <|>
    (do
      char '['
      let (path, name) ← key
      char ']'
      pure (Line.header path name)) <|>
    (do
      let (path, name) ← key
      char '='
      spaces
      let v ← value maxDepth
      pure (Line.assignment path name v)) <|>
    pure Line.blank
  lineEnd
  pure line

/-- A document under construction: its tree, and the path of the table that keys go to. -/
structure Draft where
  root : Node
  current : List String

def Draft.add (d : Draft) : Line → Option Draft
  | .blank => some d
  | .assignment path name value =>
    (d.root.update false (Node.insertKey path name value) d.current).map fun root => { d with root }
  | .header path name => (d.root.openTable path name).map fun root => ⟨root, path ++ [name]⟩
  | .element path name => (d.root.openElement path name).map fun root => ⟨root, path ++ [name]⟩

/-- The lines of a text. Every line but the last takes a line end with it. -/
def linesOf? : Nat → List Char → Option (List Line)
  | 0, _ => none
  | rounds + 1, cs => do
    let (first, rest) ← line cs
    if rest.isEmpty then pure [first] else (first :: ·) <$> linesOf? rounds rest

/-- The tree of a document. A byte order mark at its start is ignored. -/
def Node.read? (text : String) : Option Node := do
  let cs := text.toList
  let cs := if cs.head? = some '\ufeff' then cs.drop 1 else cs
  let lines ← linesOf? (cs.length + 1) cs
  let draft ← lines.foldlM Draft.add ⟨.emptyDocument, []⟩
  pure draft.root

end RuleVerify.Toml
