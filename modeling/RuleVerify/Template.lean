import RuleVerify.Text.Split
import RuleVerify.Values

namespace RuleVerify.Template

/-- A placeholder is a name between an opening and the first closing brace behind it. -/
def opening : List Char := ['$', '\x7b']

def closing : List Char := ['\x7d']

/-- A placeholder and the literal text before it. -/
structure Hole where
  before : List Char
  name : List Char
deriving DecidableEq, Repr

/-- The first placeholder of a text, and the text behind it. There is none when the first opening
    is not followed by a closing brace. -/
def nextHole? (cs : List Char) : Option (Hole × List Char) :=
  match Text.cutAt? opening cs with
  | none => none
  | some (before, opened) =>
    match Text.cutAt? closing opened with
    | none => none
    | some (name, rest) => some (⟨before, name⟩, rest)

/-- A placeholder as it is written. -/
def placeholder (name : List Char) : List Char := opening ++ name ++ closing

/-- A placeholder is cut off the front of its text whole. -/
theorem eq_of_nextHole? {cs rest : List Char} {hole : Hole}
    (hnext : nextHole? cs = some (hole, rest)) :
    cs = hole.before ++ placeholder hole.name ++ rest := by
  unfold nextHole? at hnext
  split at hnext
  · simp at hnext
  · rename_i before opened hopening
    split at hnext
    · simp at hnext
    · rename_i name rest' hclosing
      simp only [Option.some.injEq, Prod.mk.injEq] at hnext
      obtain ⟨rfl, rfl⟩ := hnext
      rw [Text.eq_of_cutAt? hopening, Text.eq_of_cutAt? hclosing]
      simp [placeholder]

/-- Something is taken off the text with every placeholder, so reading a text ends. -/
theorem length_lt_of_nextHole? {cs rest : List Char} {hole : Hole}
    (hnext : nextHole? cs = some (hole, rest)) : rest.length < cs.length := by
  rw [eq_of_nextHole? hnext]
  simp only [placeholder, opening, List.length_append, List.length_cons]
  omega

/-- What stands in the place of a placeholder: the value in canonical spacing, or the placeholder
    itself where the name has none. -/
def fill (values : Values) (name : List Char) : List Char :=
  match values.get? (String.ofList name) with
  | some value => Text.normalizeSpace value.toList
  | none => placeholder name

def substituteFrom (values : Values) (cs : List Char) : List Char :=
  match _hnext : nextHole? cs with
  | none => cs
  | some (hole, rest) => hole.before ++ fill values hole.name ++ substituteFrom values rest
termination_by cs.length
decreasing_by exact length_lt_of_nextHole? _hnext

/-- Replaces the placeholders that have a value. Inserted text is not read again. -/
def substitute (values : Values) (expression : String) : String :=
  if values.isEmpty || Text.allBlank expression.toList then expression
  else String.ofList (substituteFrom values expression.toList)

/-- The names of the placeholders in order of appearance, without empty ones. -/
def namesFrom (cs : List Char) : List (List Char) :=
  match _hnext : nextHole? cs with
  | none => []
  | some (hole, rest) =>
    if hole.name.isEmpty then namesFrom rest else hole.name :: namesFrom rest
termination_by cs.length
decreasing_by all_goals exact length_lt_of_nextHole? _hnext

def placeholders (expression : String) : List String :=
  (namesFrom expression.toList).map String.ofList

/-- A text in canonical spacing. -/
def normalizeSpace (text : String) : String := String.ofList (Text.normalizeSpace text.toList)

end RuleVerify.Template
