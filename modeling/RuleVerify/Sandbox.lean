import RuleVerify.Event
import RuleVerify.Expr.Eval
import RuleVerify.Library

namespace RuleVerify

/-- The loaded libraries, in load order. -/
structure Sandbox where
  loaded : List Library

namespace Sandbox

def empty : Sandbox := ⟨[]⟩

def loadedNames (s : Sandbox) : List String := s.loaded.map Library.name

/-- Loads the library that an identifier names, unless it is loaded already. An unknown identifier
    leaves the vocabulary as it is. -/
def load (s : Sandbox) (identifier : String) : Traced Sandbox :=
  match Library.resolve? identifier with
  | none => ⟨s, [.libraryUnknown identifier]⟩
  | some library =>
    if library.name ∈ s.loadedNames then pure s
    else ⟨⟨s.loaded ++ [library]⟩, [.libraryLoaded library.name]⟩

def ofLibraries (identifiers : List String) : Traced Sandbox := identifiers.foldlM load empty

/-- The sandbox with the collection functions. -/
def default : Traced Sandbox := ofLibraries [Library.lodash.name]

def vocabulary (s : Sandbox) : Expr.Vocabulary := fun name =>
  s.loaded.findSome? fun library => library.functions.lookup name

/-- An expression without the white space around it and without one semicolon at its end. -/
def stripTerminator (cs : List Char) : List Char :=
  let trimmed := Text.trim cs
  (Text.dropSuffix? [';'] trimmed).getD trimmed

def evaluate (s : Sandbox) : BooleanEvaluator := fun expression =>
  match Expr.evalBoolean s.vocabulary (stripTerminator expression.toList) with
  | .ok b => .ofBool b
  | .error fault => .broken fault.message

end Sandbox

end RuleVerify
