namespace RuleVerify.Toml

/-- How a table came to be, which decides who may add to it. -/
inductive Origin where
  /-- By a header of its own. -/
  | header
  /-- As a step in the path of a header. -/
  | path
  /-- As a step in a dotted key. -/
  | dotted
  /-- In braces; nothing may be added to it. -/
  | inline
deriving DecidableEq, Repr

inductive Node where
  | string (text : String)
  | integer (n : Int)
  | float (x : Float)
  | boolean (b : Bool)
  /-- A date, a time or both, as it is written. -/
  | moment (text : String)
  | array (items : List Node)
  | table (origin : Origin) (members : List (String × Node))
  /-- The tables under one header in double brackets. -/
  | tables (elements : List Node)

namespace Node

instance : Inhabited Node := ⟨.table .header []⟩

def emptyDocument : Node := .table .header []

def setMember (key : String) (node : Node) : List (String × Node) → List (String × Node)
  | [] => [(key, node)]
  | (k, n) :: members =>
    if k = key then (k, node) :: members else (k, n) :: setMember key node members

/-- Changes the table at the end of a path and makes the tables that are missing on the way. In an
    array of tables the path goes through the last one. A dotted key may pass neither a table with
    a header nor one in braces, a header may pass all but the latter. -/
def update (dotted : Bool) (change : Node → Option Node) : List String → Node → Option Node
  | [], node => change node
  | key :: path, .table origin members => do
    let child ← match members.lookup key with
      | none => update dotted change path (.table (if dotted then .dotted else .path) [])
      | some (.table o ms) =>
        if o = .inline || (dotted && o = .header) then none
        else update dotted change path (.table o ms)
      | some (.tables elements) =>
        match elements.getLast? with
        | none => none
        | some last => do
          let last ← update dotted change path last
          pure (.tables (elements.dropLast ++ [last]))
      | some _ => none
    pure (.table origin (setMember key child members))
  | _, _ => none

/-- Sets a new key of a table. The last table on the way of a dotted key must be one that dotted
    keys made. -/
def insertKey (path : List String) (key : String) (value : Node) : Node → Option Node :=
  update true (fun
    | .table origin members =>
      if (origin == .dotted) == path.isEmpty || (members.lookup key).isSome then none
      else some (.table origin (members ++ [(key, value)]))
    | _ => none) path

/-- Opens the table of a header. Only a table that other headers have merely passed may be there
    already. -/
def openTable (path : List String) (key : String) : Node → Option Node :=
  update false (fun
    | .table origin members =>
      match members.lookup key with
      | none => some (.table origin (members ++ [(key, .table .header [])]))
      | some (.table .path ms) => some (.table origin (setMember key (.table .header ms) members))
      | some _ => none
    | _ => none) path

/-- Begins the next table of a header in double brackets. -/
def openElement (path : List String) (key : String) : Node → Option Node :=
  update false (fun
    | .table origin members =>
      match members.lookup key with
      | none => some (.table origin (members ++ [(key, .tables [.table .header []])]))
      | some (.tables elements) =>
        some (.table origin (setMember key (.tables (elements ++ [.table .header []])) members))
      | some _ => none
    | _ => none) path

end Node

end RuleVerify.Toml
