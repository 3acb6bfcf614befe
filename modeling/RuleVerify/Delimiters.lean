namespace RuleVerify

/-- The three literal texts that cut a rule definition. -/
structure Delimiters where
  /-- Between blocks. -/
  types : String
  /-- Between the category of a block and its body. -/
  category : String
  /-- Between the rules of a body. -/
  rules : String
deriving DecidableEq, Repr

/-- The default delimiters of category and rules end in two blanks, so that rules may hold colons
    and semicolons. -/
def Delimiters.default : Delimiters where
  types := "|&|"
  category := ":  "
  rules := ";  "

/-- The name of the first empty delimiter. -/
def Delimiters.firstEmpty? (d : Delimiters) : Option String :=
  if d.types.isEmpty then some "types"
  else if d.category.isEmpty then some "category"
  else if d.rules.isEmpty then some "rules"
  else none

end RuleVerify
