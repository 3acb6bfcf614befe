import RuleVerify.Decimal.Read
import RuleVerify.Expr.Fault
import RuleVerify.Text.Blank

namespace RuleVerify.Expr

/-- What a text is cut into first, without its comments. Marks that stand together then make
    tokens. -/
inductive Mark where
  | string (text : List Char)
  | word (text : List Char)
  | sign (c : Char)
  | blank
deriving DecidableEq, Repr

/-- How a mark is named in a message. -/
def Mark.display : Mark → String
  | .string text => Text.quote (String.ofList text)
  | .word text => String.ofList text
  | .sign c => String.singleton c
  | .blank => " "

/-- The characters that are marks of their own. -/
def signs : List Char :=
  ['+', '-', '*', '/', '%', '^', '(', ')', ',', ';', '=', '!', '>', '<', '&', '|']

/-- Where the scan of a text stands. -/
inductive Scan where
  | ground
  /-- Inside a string, with the text so far in reverse. -/
  | string (before : List Char)
  | escape (before : List Char)
  | lineComment
  | blockComment
deriving DecidableEq, Repr

/-- Puts a character in front of the word that follows, if one does. -/
def consWord (c : Char) : List Mark → List Mark
  | .word text :: marks => .word (c :: text) :: marks
  | marks => .word [c] :: marks

/-- The marks of a text. A comment leaves no mark, so the words on its two sides are one. -/
def marksFrom : Scan → List Char → Except Fault (List Mark)
  | .ground, [] => pure []
  | .ground, '/' :: '/' :: cs => marksFrom .lineComment cs
  | .ground, '/' :: '*' :: cs => marksFrom .blockComment cs
  | .ground, c :: cs =>
    if c = '"' then marksFrom (.string []) cs
    else if c ∈ signs then (.sign c :: ·) <$> marksFrom .ground cs
    else if Text.isBlank c then (.blank :: ·) <$> marksFrom .ground cs
    else consWord c <$> marksFrom .ground cs
  | .string _, [] => throw .unmatchedQuote
  | .string before, c :: cs =>
    if c = '"' then (.string before.reverse :: ·) <$> marksFrom .ground cs
    else if c = '\\' then marksFrom (.escape before) cs
    else marksFrom (.string (c :: before)) cs
  | .escape _, [] => throw (.illegalEscape none)
  | .escape before, c :: cs =>
    if c = '"' || c = '\\' then marksFrom (.string (c :: before)) cs
    else throw (.illegalEscape (some c))
  | .lineComment, [] => pure []
  | .lineComment, c :: cs => marksFrom (if c = '\n' then .ground else .lineComment) cs
  | .blockComment, [] => throw .unmatchedComment
  | .blockComment, '*' :: '/' :: cs => marksFrom .ground cs
  | .blockComment, _ :: cs => marksFrom .blockComment cs

def marks (cs : List Char) : Except Fault (List Mark) := marksFrom .ground cs

/-- The operators between two operands. -/
inductive Binary where
  | add
  | sub
  | mul
  | div
  | mod
  | exp
  | eq
  | neq
  | gt
  | lt
  | geq
  | leq
  | and
  | or
deriving DecidableEq, Repr

inductive Token where
  /-- A minus sign, of which the tree decides whether it has a left operand. -/
  | minus
  /-- Any other operator between two operands. -/
  | binary (operator : Binary)
  | not
  | assign
  /-- An operator with an equals sign behind it. -/
  | update (operator : Binary)
  | openParen
  | closeParen
  | comma
  | semicolon
  | identifier (name : String)
  | constant (value : Value)

def Token.isAssignment : Token → Bool
  | .assign | .update _ => true
  | _ => false

/-- A value can begin with this token, given that an identifier stands before it. -/
def Token.startsValue : Token → Bool
  | .openParen | .identifier _ | .constant _ => true
  | _ => false

/-- A value can end with this token. -/
def Token.endsValue : Token → Bool
  | .closeParen | .identifier _ | .constant _ => true
  | _ => false

/-- An integer of 64 bits, when the number fits. -/
def int64? (n : Int) : Option Int64 :=
  if Int64.minValue.toInt ≤ n ∧ n ≤ Int64.maxValue.toInt then some (Int64.ofInt n) else none

def hexDigit? (c : Char) : Option Nat :=
  if Decimal.isDigit c then some (c.toNat - '0'.toNat)
  else if 'a' ≤ c && c ≤ 'f' then some (c.toNat - 'a'.toNat + 10)
  else if 'A' ≤ c && c ≤ 'F' then some (c.toNat - 'A'.toNat + 10)
  else none

/-- The value of a non-empty run of hexadecimal digits. -/
def hexNat? (cs : List Char) : Option Nat :=
  if cs.isEmpty then none
  else cs.foldlM (fun n c => (hexDigit? c).map (16 * n + ·)) 0

/-- An integer literal: decimal digits, or hexadecimal ones after `0x`. -/
def readInt? (word : List Char) : Option Int64 :=
  match word with
  | '0' :: 'x' :: digits => (hexNat? digits).bind fun n => int64? n
  | digits =>
    if digits.isEmpty || !digits.all Decimal.isDigit then none
    else int64? (Decimal.natOfDigits digits)

/-- The constant that a word denotes by itself. -/
def constant? (word : List Char) : Option Value :=
  match readInt? word with
  | some n => some (.int n)
  | none =>
    match Decimal.readFloat? word with
    | some x => some (.float x)
    | none =>
      if word = "true".toList then some (.boolean true)
      else if word = "false".toList then some (.boolean false)
      else none

/-- The token of a word and how many of the marks behind it belong to it. A word, a sign and a
    word can make one number, as in `1e-3`. -/
def wordToken (word : List Char) (rest : List Mark) : Token × Nat :=
  match constant? word with
  | some value => (.constant value, 0)
  | none =>
    let name := Token.identifier (String.ofList word)
    match rest with
    | .sign c :: .word tail :: _ =>
      if c = '+' || c = '-' then
        match Decimal.readFloat? (word ++ c :: tail) with
        | some x => (.constant (.float x), 2)
        | none => (name, 0)
      else (name, 0)
    | _ => (name, 0)

/-- The sign that stands directly behind. -/
def followingSign : List Mark → Option Char
  | .sign c :: _ => some c
  | _ => none

/-- An operator whose sign an equals sign may follow. -/
def updatable (plain updated : Token) (rest : List Mark) : Token × Nat :=
  if followingSign rest = some '=' then (updated, 1) else (plain, 0)

/-- `&&` and `||`, alone or with an equals sign. One half of them is no token. -/
def doubled (c : Char) (operator : Binary) (rest : List Mark) : Except Fault (Token × Nat) :=
  if followingSign rest = some c then
    if followingSign (rest.drop 1) = some '=' then pure (.update operator, 2)
    else pure (.binary operator, 1)
  else throw (.loneSign c (rest.head?.map Mark.display))

def signToken (c : Char) (rest : List Mark) : Except Fault (Token × Nat) :=
  match c with
  | '+' => pure (updatable (.binary .add) (.update .add) rest)
  | '-' => pure (updatable .minus (.update .sub) rest)
  | '*' => pure (updatable (.binary .mul) (.update .mul) rest)
  | '/' => pure (updatable (.binary .div) (.update .div) rest)
  | '%' => pure (updatable (.binary .mod) (.update .mod) rest)
  | '^' => pure (updatable (.binary .exp) (.update .exp) rest)
  | '=' => pure (updatable .assign (.binary .eq) rest)
  | '!' => pure (updatable .not (.binary .neq) rest)
  | '>' => pure (updatable (.binary .gt) (.binary .geq) rest)
  | '<' => pure (updatable (.binary .lt) (.binary .leq) rest)
  | '&' => doubled c .and rest
  | '|' => doubled c .or rest
  | '(' => pure (.openParen, 0)
  | ')' => pure (.closeParen, 0)
  | ',' => pure (.comma, 0)
  | _ => pure (.semicolon, 0)

/-- The tokens of a row of marks, of which the first `passing` belong to a token already made. -/
def tokensPassing : Nat → List Mark → Except Fault (List Token)
  | _, [] => pure []
  | passing + 1, _ :: marks => tokensPassing passing marks
  | 0, .blank :: marks => tokensPassing 0 marks
  | 0, .string text :: marks =>
    (.constant (.string (String.ofList text)) :: ·) <$> tokensPassing 0 marks
  | 0, .word text :: marks =>
    let (token, taken) := wordToken text marks
    (token :: ·) <$> tokensPassing taken marks
  | 0, .sign c :: marks => do
    let (token, taken) ← signToken c marks
    (token :: ·) <$> tokensPassing taken marks

def tokens (cs : List Char) : Except Fault (List Token) := marks cs >>= tokensPassing 0

end RuleVerify.Expr
