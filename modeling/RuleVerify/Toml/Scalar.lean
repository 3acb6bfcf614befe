import RuleVerify.Decimal.Read
import RuleVerify.Timestamp
import RuleVerify.Toml.Document

namespace RuleVerify.Toml

/-- Digits, between which single underscores may stand. -/
def plainDigits? (isDigit : Char → Bool) (cs : List Char) : Option (List Char) :=
  let groups := cs.splitOn '_'
  if groups.all fun group => !group.isEmpty && group.all isDigit then some groups.flatten else none

/-- An integer of 64 bits. -/
def int64? (n : Int) : Option Node :=
  if Int64.minValue.toInt ≤ n ∧ n ≤ Int64.maxValue.toInt then some (.integer n) else none

def digitValue (c : Char) : Nat :=
  if c ≤ '9' then c.toNat - '0'.toNat
  else if c ≤ 'F' then c.toNat - 'A'.toNat + 10
  else c.toNat - 'a'.toNat + 10

/-- An integer in a base other than ten. -/
def based? (base : Nat) (isDigit : Char → Bool) (cs : List Char) : Option Node := do
  let digits ← plainDigits? isDigit cs
  int64? (digits.foldl (fun n c => base * n + digitValue c) 0 : Nat)

def isHexDigit (c : Char) : Bool :=
  Decimal.isDigit c || ('a' ≤ c && c ≤ 'f') || ('A' ≤ c && c ≤ 'F')

/-- Decimal digits without a needless leading zero. -/
def wholeDigits? (cs : List Char) : Option (List Char) := do
  let digits ← plainDigits? Decimal.isDigit cs
  if digits.head? = some '0' && 1 < digits.length then none else pure digits

def integer? (cs : List Char) : Option Node :=
  match cs with
  | '0' :: 'x' :: cs => based? 16 isHexDigit cs
  | '0' :: 'o' :: cs => based? 8 (fun c => '0' ≤ c && c ≤ '7') cs
  | '0' :: 'b' :: cs => based? 2 (fun c => '0' ≤ c && c ≤ '1') cs
  | cs => do
    let (negative, rest) := Decimal.takeSign cs
    let n := Int.ofNat (Decimal.natOfDigits (← wholeDigits? rest))
    int64? (if negative then -n else n)

/-- The exponent of a float, in digits that may begin with zero. -/
def exponent? (cs : List Char) : Option (List Char) := do
  let (_, digits) := Decimal.takeSign cs
  let digits ← plainDigits? Decimal.isDigit digits
  pure (cs.take (cs.length - (Decimal.takeSign cs).2.length) ++ digits)

def isExponentMark (c : Char) : Bool := c = 'e' || c = 'E'

/-- A float has a fraction or an exponent, or is one of two words. -/
def float? (cs : List Char) : Option Node := do
  let (negative, rest) := Decimal.takeSign cs
  if rest = "inf".toList then pure (.float (if negative then -1 / 0 else 1 / 0))
  else if rest = "nan".toList then pure (.float (0 / 0))
  else
    let mantissa := rest.takeWhile (!isExponentMark ·)
    let power := rest.dropWhile (!isExponentMark ·)
    let whole ← wholeDigits? (mantissa.takeWhile (· ≠ '.'))
    let fraction ← match mantissa.dropWhile (· ≠ '.') with
      | [] => if power.isEmpty then none else some []
      | _ :: digits => plainDigits? Decimal.isDigit digits
    let exponent ← match power with
      | [] => some 0
      | mark :: digits => do
        let digits ← exponent? digits
        Decimal.readExponent? (mark :: digits)
    let x := Decimal.toFloat negative
      ⟨Decimal.natOfDigits (whole ++ fraction), exponent - Int.ofNat fraction.length⟩
    if x == 1 / 0 then none else pure (.float x)

/-- Two digits of at most the given value. -/
def twoDigits? (most : Nat) : List Char → Option (Nat × List Char)
  | a :: b :: cs =>
    let n := Decimal.natOfDigits [a, b]
    if Decimal.isDigit a && Decimal.isDigit b && n ≤ most then some (n, cs) else none
  | _ => none

def dropChar? (c : Char) : List Char → Option (List Char)
  | d :: cs => if d = c then some cs else none
  | [] => none

/-- What follows a date. -/
def afterDate? (cs : List Char) : Option (List Char) := do
  let year := cs.take 4
  if year.length ≠ 4 || !year.all Decimal.isDigit then none
  else
    let cs ← dropChar? '-' (cs.drop 4)
    let (month, cs) ← twoDigits? 12 cs
    let cs ← dropChar? '-' cs
    let (day, cs) ← twoDigits? 31 cs
    if month = 0 || day = 0 ||
        Timestamp.daysInMonth (Decimal.natOfDigits year) month < day then none
    else pure cs

/-- What follows a time of day. -/
def afterTime? (cs : List Char) : Option (List Char) := do
  let (_, cs) ← twoDigits? 23 cs
  let cs ← dropChar? ':' cs
  let (_, cs) ← twoDigits? 59 cs
  let cs ← dropChar? ':' cs
  let (_, cs) ← twoDigits? 60 cs
  match cs with
  | '.' :: fraction =>
    if (fraction.takeWhile Decimal.isDigit).isEmpty then none
    else pure (fraction.dropWhile Decimal.isDigit)
  | cs => pure cs

/-- An offset from universal time, or none. -/
def isOffset (cs : List Char) : Bool :=
  match cs with
  | [] => true
  | [c] => c = 'Z' || c = 'z'
  | c :: cs =>
    (c = '+' || c = '-') &&
      (match twoDigits? 23 cs with
        | some (_, ':' :: cs) => (twoDigits? 59 cs).any fun r => r.2.isEmpty
        | _ => false)

def isMoment (cs : List Char) : Bool :=
  match afterDate? cs with
  | some [] => true
  | some (c :: cs) => (c = 'T' || c = 't' || c = ' ') && (afterTime? cs).any isOffset
  | none => (afterTime? cs).any List.isEmpty

def scalar? (cs : List Char) : Option Node :=
  if cs = "true".toList then some (.boolean true)
  else if cs = "false".toList then some (.boolean false)
  else if isMoment cs then some (.moment (String.ofList cs))
  else (integer? cs).orElse fun _ => float? cs

end RuleVerify.Toml
