import RuleVerify.Text.Scan

namespace RuleVerify.Text

/-- A regular expression maps a position in a text to the positions at which a match may end. -/
inductive Pattern where
  | empty
  | literal (c : Char)
  /-- Any character but a line end. -/
  | any
  | oneOf (negated : Bool) (ranges : List (Char × Char))
  | textStart
  | textEnd
  | sequence (first second : Pattern)
  | either (first second : Pattern)
  /-- Any number of times, also none. -/
  | star (p : Pattern)

namespace Pattern

/-- A place in a text: whether it is the start, and what follows it. -/
structure Position where
  atStart : Bool
  rest : List Char
deriving DecidableEq

/-- Takes one character that satisfies `p`. -/
def Position.step (p : Char → Bool) : Position → List Position
  | ⟨_, c :: rest⟩ => if p c then [⟨false, rest⟩] else []
  | ⟨_, []⟩ => []

/-- The positions reached by any number of steps. Every round but the last finds a new one. -/
def reachable (step : Position → List Position) :
    Nat → List Position → List Position → List Position
  | 0, _, seen => seen
  | rounds + 1, frontier, seen =>
    let new := ((frontier.flatMap step).filter fun p => p ∉ seen).eraseDups
    if new.isEmpty then seen else reachable step rounds new (seen ++ new)

/-- Where a match that begins at a position may end. -/
def ends (isLineEnd : Char → Bool) : Pattern → Position → List Position
  | .empty, p => [p]
  | .literal c, p => p.step (· = c)
  | .any, p => p.step fun c => !isLineEnd c
  | .oneOf negated ranges, p =>
    p.step fun c => (ranges.any fun r => r.1 ≤ c && c ≤ r.2) != negated
  | .textStart, p => if p.atStart then [p] else []
  | .textEnd, p => if p.rest.isEmpty then [p] else []
  | .sequence first second, p =>
    ((ends isLineEnd first p).flatMap (ends isLineEnd second)).eraseDups
  | .either first second, p => ends isLineEnd first p ++ ends isLineEnd second p
  | .star inner, p => reachable (ends isLineEnd inner) (p.rest.length + 1) [p] [p]

/-- A match takes all of the text. -/
def matchesAll (isLineEnd : Char → Bool) (pattern : Pattern) (text : List Char) : Bool :=
  (ends isLineEnd pattern ⟨true, text⟩).any fun p => p.rest.isEmpty

/-- A match begins behind some character of a text. -/
def occursLater (isLineEnd : Char → Bool) (pattern : Pattern) : List Char → Bool
  | [] => false
  | _ :: rest =>
    !(ends isLineEnd pattern ⟨false, rest⟩).isEmpty || occursLater isLineEnd pattern rest

/-- A match begins somewhere in the text. -/
def occursIn (isLineEnd : Char → Bool) (pattern : Pattern) (text : List Char) : Bool :=
  !(ends isLineEnd pattern ⟨true, text⟩).isEmpty || occursLater isLineEnd pattern text

open Scan

/-- Characters that do not stand for themselves. -/
def isSpecial (c : Char) : Bool :=
  c ∈ ['\\', '.', '+', '*', '?', '(', ')', '|', '[', '^', '$', '\x7b']

/-- A character behind a backslash: punctuation stands for itself, a few letters for controls. -/
def escapedChar : Scan Char := do
  match ← satisfy fun _ => true with
  | 'n' => pure '\n'
  | 'r' => pure '\r'
  | 't' => pure '\t'
  | c => if c.toNat < 128 && !c.isAlphanum then pure c else failure

def digits : List (Char × Char) := [('0', '9')]

def wordChars : List (Char × Char) := [('0', '9'), ('A', 'Z'), ('_', '_'), ('a', 'z')]

def blanks : List (Char × Char) :=
  [('\t', '\r'), (' ', ' '), ('\xa0', '\xa0'), ('\u1680', '\u1680'), ('\u2000', '\u200a'),
   ('\u2028', '\u2029'), ('\u202f', '\u202f'), ('\u205f', '\u205f'), ('\u3000', '\u3000'),
   ('\ufeff', '\ufeff')]

/-- A class with a letter of its own. -/
def namedClass : Scan Pattern := do
  match ← satisfy fun _ => true with
  | 'd' => pure (.oneOf false digits)
  | 'D' => pure (.oneOf true digits)
  | 'w' => pure (.oneOf false wordChars)
  | 'W' => pure (.oneOf true wordChars)
  | 's' => pure (.oneOf false blanks)
  | 'S' => pure (.oneOf true blanks)
  | _ => failure

def classChar : Scan Char := (char '\\' *> escapedChar) <|> satisfy fun c => c ≠ ']' && c ≠ '\\'

/-- One entry of a class: a range that is not empty, a character, or a named class. -/
def classEntry : Scan (List (Char × Char)) :=
  (do
    char '\\'
    match ← namedClass with
    | .oneOf false ranges => pure ranges
    | _ => failure) <|>
  (do
    let low ← classChar
    char '-'
    let high ← classChar
    if low ≤ high then pure [(low, high)] else failure) <|>
  ((fun c => [(c, c)]) <$> classChar)

def classBody : Scan Pattern := do
  char '['
  let negated ← accept "^"
  let first ← classEntry
  let rest ← many classEntry
  char ']'
  pure (.oneOf negated (first ++ rest.flatten))

/-- How often a piece stands. -/
def quantifier : Scan (Pattern → Pattern) := do
  match ← satisfy fun _ => true with
  | '*' => pure .star
  | '+' => pure fun p => .sequence p (.star p)
  | '?' => pure fun p => .either p .empty
  | _ => failure

/-- A piece with its quantifiers; `group` reads what stands between parentheses. -/
def piece (group : Scan Pattern) : Scan Pattern := do
  let p ← (char '.' *> pure .any) <|> (char '^' *> pure .textStart) <|>
    (char '$' *> pure .textEnd) <|> classBody <|> (char '\\' *> namedClass) <|>
    (Pattern.literal <$> (char '\\' *> escapedChar)) <|>
    (Pattern.literal <$> satisfy (!isSpecial ·)) <|>
    (char '(' *> optional? (word "?:") *> group <* char ')')
  return (← many quantifier).foldl (fun p q => q p) p

/-- Alternatives of sequences of pieces, with at most `depth` groups inside one another. -/
def alternatives : Nat → Scan Pattern
  | 0 => failure
  | depth + 1 => do
    let branch := List.foldr Pattern.sequence .empty <$> many (piece (alternatives depth))
    let branches ← separated branch (char '|')
    match branches.reverse with
    | last :: before => pure (before.foldl (fun p b => .either b p) last)
    | [] => failure

/-- The pattern that a text writes. -/
def ofText? (text : String) : Option Pattern :=
  run? (alternatives (text.length + 1)) text.toList

end Pattern

end RuleVerify.Text
