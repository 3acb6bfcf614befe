import RuleVerify.Decimal.Layout
import RuleVerify.Text.Quoted

namespace RuleVerify.Expr

inductive Value where
  | string (text : String)
  | float (x : Float)
  | int (n : Int64)
  | boolean (b : Bool)
  | tuple (items : List Value)
  | empty

instance : Inhabited Value := ⟨.empty⟩

/-- The kinds that messages name. -/
inductive Kind where
  | string
  | float
  | int
  | boolean
  | tuple
  | empty
deriving DecidableEq, Repr

def Kind.name : Kind → String
  | .string => "String"
  | .float => "Float"
  | .int => "Int"
  | .boolean => "Boolean"
  | .tuple => "Tuple"
  | .empty => "Empty"

/-- A list of kinds in brackets. -/
def Kind.list (kinds : List Kind) : String :=
  "[" ++ String.intercalate ", " (kinds.map Kind.name) ++ "]"

namespace Value

def kind : Value → Kind
  | .string _ => .string
  | .float _ => .float
  | .int _ => .int
  | .boolean _ => .boolean
  | .tuple _ => .tuple
  | .empty => .empty

mutual

/-- Values are equal when their kinds and contents are, so `1` differs from `1.0`, and a NaN from
    itself. -/
def same : Value → Value → Bool
  | .string a, .string b => a == b
  | .float x, .float y => x == y
  | .int m, .int n => m == n
  | .boolean a, .boolean b => a == b
  | .tuple as, .tuple bs => sameItems as bs
  | .empty, .empty => true
  | _, _ => false

def sameItems : List Value → List Value → Bool
  | [], [] => true
  | a :: as, b :: bs => same a b && sameItems as bs
  | _, _ => false

end

instance : BEq Value := ⟨same⟩

/-- Floats inside messages: a point always, and an exponent outside 0.0001 to 10^16. -/
def exactLayout : Decimal.Layout where
  tie := .up
  positional e := -5 < e && e < 16
  wholeMark := ".0"
  plusSign := false
  infinity := "inf"
  notANumber := "NaN"

def floatText (x : Float) : String := Decimal.Layout.plain.write x

def intText (n : Int64) : String := n.toInt.repr

def booleanText (b : Bool) : String := if b then "true" else "false"

mutual

/-- The form of messages, which shows the kind. -/
def describe : Value → String
  | .string text => "String(" ++ Text.quote text ++ ")"
  | .float x => "Float(" ++ exactLayout.write x ++ ")"
  | .int n => "Int(" ++ intText n ++ ")"
  | .boolean b => "Boolean(" ++ booleanText b ++ ")"
  | .tuple items => "Tuple([" ++ String.intercalate ", " (describeItems items) ++ "])"
  | .empty => "Empty"

def describeItems : List Value → List String
  | [] => []
  | item :: items => describe item :: describeItems items

end

mutual

/-- The form of computed text. A string stands in plain quotes. -/
def display : Value → String
  | .string text => "\"" ++ text ++ "\""
  | .float x => floatText x
  | .int n => intText n
  | .boolean b => booleanText b
  | .tuple items => "(" ++ String.intercalate ", " (displayItems items) ++ ")"
  | .empty => "()"

def displayItems : List Value → List String
  | [] => []
  | item :: items => display item :: displayItems items

end

end Value

end RuleVerify.Expr
