namespace RuleVerify.Text

/-- Takes what it reads off the front of a list of tokens or fails. A scanner that fails leaves
    everything for an alternative. -/
abbrev ScanOf (τ : Type) := StateT (List τ) Option

abbrev Scan := ScanOf Char

namespace Scan

variable {τ α β : Type}

/-- Nothing is left. -/
def atEnd : ScanOf τ Bool := fun ts => some (ts.isEmpty, ts)

/-- The next token, if it satisfies `p`. -/
def satisfy (p : τ → Bool) : ScanOf τ τ
  | t :: ts => if p t then some (t, ts) else none
  | [] => none

/-- What the next token stands for. -/
def read? (f : τ → Option α) : ScanOf τ α
  | t :: ts => (f t).map (·, ts)
  | [] => none

def char (c : Char) : Scan Unit
  | d :: cs => if d = c then some ((), cs) else none
  | [] => none

/-- A literal text. -/
def word (text : String) : Scan Unit := fun cs =>
  let w := text.toList
  if w.isPrefixOf cs then some ((), cs.drop w.length) else none

/-- The text begins with `text`. -/
def looksAt (text : String) : Scan Bool := fun cs => some (text.toList.isPrefixOf cs, cs)

/-- The longest run of characters that satisfy `p`. -/
def takeWhile (p : Char → Bool) : Scan (List Char) := fun cs =>
  some (cs.takeWhile p, cs.dropWhile p)

/-- A run of at least one character. -/
def takeSome (p : Char → Bool) : Scan (List Char) := fun cs =>
  if (cs.takeWhile p).isEmpty then none else some (cs.takeWhile p, cs.dropWhile p)

def skipWhile (p : Char → Bool) : Scan Unit := fun cs => some ((), cs.dropWhile p)

/-- Everything before the first place where `stop` holds of what is left. -/
def takeUntil (stop : List Char → Bool) : Scan (List Char)
  | [] => some ([], [])
  | c :: cs =>
    if stop (c :: cs) then some ([], c :: cs)
    else (takeUntil stop cs).map fun (text, rest) => (c :: text, rest)

/-- What `s` reads, or nothing. -/
def optional? (s : ScanOf τ α) : ScanOf τ (Option α) := fun ts =>
  match s ts with
  | some (a, rest) => some (some a, rest)
  | none => some (none, ts)

/-- A literal text is read if it is there. -/
def accept (text : String) : Scan Bool := Option.isSome <$> optional? (word text)

def repeated (s : ScanOf τ α) : Nat → ScanOf τ (List α)
  | 0 => pure []
  | rounds + 1 => do
    match ← optional? s with
    | none => pure []
    | some a => (a :: ·) <$> repeated s rounds

/-- As many as there are. Every round takes something off, so the length bounds them. -/
def many (s : ScanOf τ α) : ScanOf τ (List α) := fun ts => repeated s ts.length ts

/-- Pieces with a separator between neighbours, at least one. -/
def separated (s : ScanOf τ α) (separator : ScanOf τ β) : ScanOf τ (List α) := do
  let first ← s
  let rest ← many (separator *> s)
  pure (first :: rest)

/-- The rest must be empty. -/
def finish : ScanOf τ Unit
  | [] => some ((), [])
  | _ => none

/-- The result of a scanner that reads everything. -/
def run? (s : ScanOf τ α) (ts : List τ) : Option α :=
  match s ts with
  | some (a, []) => some a
  | _ => none

end Scan

end RuleVerify.Text
