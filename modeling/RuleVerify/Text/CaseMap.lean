import RuleVerify.Text.CaseTable

namespace RuleVerify.Text

def imageOf (runs : List CaseRun) (long : List (Nat × List Nat)) (c : Char) : List Char :=
  match long.lookup c.toNat with
  | some image => image.map Char.ofNat
  | none => [Char.ofNat (CaseRun.apply runs c.toNat)]

def upperChar (c : Char) : List Char := imageOf upperRuns upperLong c

def lowerChar (c : Char) : List Char := imageOf lowerRuns lowerLong c

def isCased (c : Char) : Bool := inRanges casedRanges c.toNat

def isCaseIgnorable (c : Char) : Bool := inRanges caseIgnorableRanges c.toNat

/-- The first character that case does not ignore is a cased one. -/
def meetsCased (cs : List Char) : Bool :=
  match cs.dropWhile isCaseIgnorable with
  | [] => false
  | c :: _ => isCased c

/-- A letter may grow: `ß` becomes `SS`. -/
def toUpper (cs : List Char) : List Char := cs.flatMap upperChar

/-- Lower case of the second text, where the first one stands before it in reverse. -/
def toLowerAfter : List Char → List Char → List Char
  | _, [] => []
  | before, c :: cs =>
    let image :=
      if c = 'Σ' then
        if meetsCased before && !meetsCased cs then ['ς'] else ['σ']
      else lowerChar c
    image ++ toLowerAfter (c :: before) cs

def toLower (cs : List Char) : List Char := toLowerAfter [] cs

/-- Lower case of the letters A to Z; all else stays. -/
def toLowerAscii (cs : List Char) : List Char := cs.map Char.toLower

end RuleVerify.Text
