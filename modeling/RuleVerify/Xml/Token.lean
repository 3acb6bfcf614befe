import RuleVerify.Decimal.Read
import RuleVerify.Text.Blank
import RuleVerify.Text.Scan

namespace RuleVerify.Xml

open Text (Scan)
open Text.Scan

/-- A name as it is written. -/
structure QName where
  scope : Option String
  localPart : String
deriving DecidableEq, Repr

/-- Names without a prefix come first, and others by their prefix. -/
def QName.atMost (a b : QName) : Bool :=
  match a.scope, b.scope with
  | none, some _ => true
  | some _, none => false
  | some p, some q => if p = q then a.localPart ≤ b.localPart else p < q
  | none, none => a.localPart ≤ b.localPart

inductive Token where
  | startTag (name : QName) (attributes : List (QName × String)) (isEmpty : Bool)
  | endTag (name : QName)
  | characters (text : String)
  /-- A reference or a CDATA section, which is text wherever it stands. -/
  | verbatim (text : String)
  | comment (text : String)
  | instruction (target text : String)

def isSpace (c : Char) : Bool := c = ' ' || c = '\t' || c = '\n' || c = '\r'

def spaces : Scan Unit := skipWhile isSpace

def someSpaces : Scan Unit := takeSome isSpace *> pure ()

def nameStartRanges : List (Nat × Nat) :=
  [(0x41, 0x5A), (0x5F, 0x5F), (0x61, 0x7A), (0xC0, 0xD6), (0xD8, 0xF6), (0xF8, 0x2FF),
   (0x370, 0x37D), (0x37F, 0x1FFF), (0x200C, 0x200D), (0x2070, 0x218F), (0x2C00, 0x2FEF),
   (0x3001, 0xD7FF), (0xF900, 0xFDCF), (0xFDF0, 0xFFFD), (0x10000, 0xEFFFF)]

/-- What a name may go on with and not begin with. -/
def nameExtraRanges : List (Nat × Nat) :=
  [(0x2D, 0x2E), (0x30, 0x39), (0xB7, 0xB7), (0x300, 0x36F), (0x203F, 0x2040)]

def isNameStart (c : Char) : Bool := Text.inRanges nameStartRanges c.toNat

def isNameChar (c : Char) : Bool := isNameStart c || Text.inRanges nameExtraRanges c.toNat

/-- A name without a colon. -/
def simpleName : Scan String := do
  let first ← satisfy isNameStart
  let rest ← takeWhile isNameChar
  pure (String.ofList (first :: rest))

def qname : Scan QName := do
  let first ← simpleName
  match ← optional? (char ':' *> simpleName) with
  | some second => pure ⟨some first, second⟩
  | none => pure ⟨none, first⟩

/-- The value of a digit, which may be a letter from `a` on. -/
def digitValue (c : Char) : Nat :=
  if Decimal.isDigit c then c.toNat - '0'.toNat else c.toLower.toNat - 'a'.toNat + 10

/-- The character with a code in the given base. -/
def coded (base : Nat) (digits : List Char) : Scan Char :=
  let n := digits.foldl (fun n c => base * n + digitValue c) 0
  if n.isValidChar then pure (Char.ofNat n) else failure

def isHexDigit (c : Char) : Bool := Decimal.isDigit c || ('a' ≤ c.toLower && c.toLower ≤ 'f')

/-- The five characters that have names. -/
def entity? (name : String) : Option Char :=
  [("amp", '&'), ("lt", '<'), ("gt", '>'), ("quot", '"'), ("apos", '\'')].lookup name

def reference : Scan Char :=
  (word "&#x" *> (takeSome isHexDigit >>= coded 16) <* char ';') <|>
    (word "&#" *> (takeSome Decimal.isDigit >>= coded 10) <* char ';') <|> do
      char '&'
      let name ← simpleName
      char ';'
      match entity? name with
      | some c => pure c
      | none => failure

def equals : Scan Unit := spaces *> char '=' <* spaces

/-- A value between two quotes. -/
def quotedBy (quote : Char) : Scan String := do
  char quote
  let pieces ← many <|
    takeSome (fun c => c ≠ quote && c ≠ '<' && c ≠ '&') <|> (List.singleton <$> reference)
  char quote
  pure (String.ofList pieces.flatten)

def quoted : Scan String := quotedBy '"' <|> quotedBy '\''

def attributePair : Scan (QName × String) := do
  someSpaces
  let name ← qname
  equals
  return (name, ← quoted)

/-- Everything before the first place where a mark stands. -/
def upTo (mark : String) : Scan String :=
  String.ofList <$> takeUntil (mark.toList.isPrefixOf ·)

def startTag : Scan Token := do
  char '<'
  let name ← qname
  let attributes ← many attributePair
  spaces
  let isEmpty ← accept "/"
  char '>'
  pure (.startTag name attributes isEmpty)

def endTag : Scan Token := do
  word "</"
  let name ← qname
  spaces
  char '>'
  pure (.endTag name)

/-- Two hyphens end a comment. -/
def comment : Scan Token := word "<!--" *> (Token.comment <$> upTo "--") <* word "-->"

/-- An instruction, whose target is not the name of the declaration in any case. -/
def instruction : Scan Token := do
  word "<?"
  let target ← simpleName
  let text ← optional? (someSpaces *> upTo "?>")
  word "?>"
  if target.toLower = "xml" then failure else pure (.instruction target (text.getD ""))

def cdata : Scan Token := word "<![CDATA[" *> (Token.verbatim <$> upTo "]]>") <* word "]]>"

/-- Text without markup, in which the end mark of a CDATA section must not stand. -/
def characters : Scan Token := do
  let text ← takeUntil fun cs =>
    cs.head? == some '<' || cs.head? == some '&' || "]]>".toList.isPrefixOf cs
  if text.isEmpty then failure else pure (.characters (String.ofList text))

def token : Scan Token :=
  characters <|> startTag <|> endTag <|> comment <|> cdata <|> instruction <|>
    (fun c => .verbatim (String.ofList [c])) <$> reference

/-- One of some quoted values. -/
def quotedWord (value : Scan Unit) : Scan Unit :=
  (char '"' *> value <* char '"') <|> (char '\'' *> value <* char '\'')

def declared (name : String) (value : Scan Unit) : Scan Unit :=
  someSpaces *> word name *> equals *> quotedWord value

def isEncodingChar (c : Char) : Bool := c.isAlphanum || c = '.' || c = '_' || c = '-'

/-- The declaration at the very start of a document. -/
def declaration : Scan Unit := do
  word "<?xml"
  declared "version" (word "1." *> takeSome Decimal.isDigit *> pure ())
  let _ ← optional? (declared "encoding" (satisfy Char.isAlpha *> skipWhile isEncodingChar))
  let _ ← optional? (declared "standalone" (word "yes" <|> word "no"))
  spaces
  word "?>"

def tokens : Scan (List Token) := optional? declaration *> many token

end RuleVerify.Xml
