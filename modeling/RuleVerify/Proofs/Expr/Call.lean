import RuleVerify.Expr.Eval
import RuleVerify.Proofs.Expr.Literal
import RuleVerify.Proofs.Text.Blank

namespace RuleVerify.Expr

/-- The text of a call, with an exclamation mark in front if it is negated. -/
def callText (negated : Bool) (name first second : List Char) : List Char :=
  (if negated then ['!'] else []) ++ name ++ ['(', '"'] ++ first ++ ['"', ',', ' ', '"'] ++ second ++
    ['"', ')']

private theorem exists_callText_eq (negated : Bool) (name first second : List Char) :
    ∃ body, callText negated name first second = body ++ [')'] :=
  ⟨(if negated then ['!'] else []) ++ name ++ ['(', '"'] ++ first ++ ['"', ',', ' ', '"'] ++
    second ++ ['"'], by simp [callText]⟩

/-- Neither the exclamation mark, the name nor the closing parenthesis is white space. -/
theorem tight_callText (negated : Bool) {name : List Char} (first second : List Char)
    (hname : ∀ c ∈ name, isWordChar c = true) (hne : name ≠ []) :
    Text.Tight (callText negated name first second) := by
  refine ⟨?_, ?_⟩
  · cases negated with
    | true => exact ⟨'!', _, rfl, rfl⟩
    | false =>
      obtain ⟨c, name, rfl⟩ := List.exists_cons_of_ne_nil hne
      have hc := hname c List.mem_cons_self
      simp only [isWordChar, Bool.and_eq_true, Bool.not_eq_true'] at hc
      exact ⟨c, _, rfl, hc.2⟩
  · obtain ⟨body, hbody⟩ := exists_callText_eq negated name first second
    exact ⟨body, ')', hbody, rfl⟩

/-- A call ends at its closing parenthesis, so no semicolon is taken off it. -/
theorem not_semicolon_suffix_callText (negated : Bool) (name first second : List Char) :
    ¬ [';'] <:+ callText negated name first second := by
  obtain ⟨body, hbody⟩ := exists_callText_eq negated name first second
  rintro ⟨before, heq⟩
  have hlast := congrArg List.getLast? (heq.trans hbody)
  simp at hlast

/-- A call with two string literals is cut into the marks that it is written with. The literals may
    hold signs, comment marks and semicolons. -/
theorem marks_callText (negated : Bool) {name first second : List Char}
    (hname : ∀ c ∈ name, isWordChar c = true) (hne : name ≠ []) (hfirst : Plain first)
    (hsecond : Plain second) :
    marks (callText negated name first second) =
      .ok ((if negated then [.sign '!'] else []) ++ [.word name, .sign '(', .string first, .sign ',',
        .blank, .string second, .sign ')']) := by
  have hclose : marksFrom .ground [')'] = .ok [.sign ')'] :=
    marksFrom_sign (by decide) (by decide) rfl
  have hargument := marksFrom_literal hsecond hclose
  have hblank := marksFrom_blank (c := ' ') (by decide) (by decide) (by decide) hargument
  have hcomma := marksFrom_sign (c := ',') (by decide) (by decide) hblank
  have hopen := marksFrom_sign (c := '(') (by decide) (by decide) (marksFrom_literal hfirst hcomma)
  have hcall := marksFrom_word hname hne hopen (by simp)
  cases negated with
  | false => simpa [marks, callText] using hcall
  | true =>
    have hnot := marksFrom_sign (c := '!') (by decide) (by decide) hcall
    simpa [marks, callText] using hnot

/-- The tokens of a call. -/
def callTokens (negated : Bool) (name : String) (first second : Value) : List Token :=
  (if negated then [.not] else []) ++
    [.identifier name, .openParen, .constant first, .comma, .constant second, .closeParen]

/-- A word that is no constant names the function in front of a parenthesis. -/
theorem tokens_callText (negated : Bool) {name first second : List Char}
    (hname : ∀ c ∈ name, isWordChar c = true) (hne : name ≠ []) (hconstant : constant? name = none)
    (hfirst : Plain first) (hsecond : Plain second) :
    tokens (callText negated name first second) =
      .ok (callTokens negated (String.ofList name) (.string (String.ofList first))
        (.string (String.ofList second))) := by
  rw [tokens, marks_callText negated hname hne hfirst hsecond]
  cases negated <;>
    simp [callTokens, tokensPassing, wordToken, hconstant, signToken, updatable, followingSign,
      bind, Except.bind, pure, Except.pure, Functor.map, Except.map]

/-- The tree of a call. Each argument is the whole of an operand of the comma. -/
def callNode (name : String) (first second : Value) : Node :=
  .mk (.function name) [.mk .root [.mk .tuple
    [.mk .root [.leaf (.constant first)], .mk .root [.leaf (.constant second)]]]]

/-- The tokens of a call make the tree of the call, below its negation if there is one. -/
theorem ofTokens_callTokens (negated : Bool) (name : String) (first second : Value) :
    Node.ofTokens (callTokens negated name first second) =
      .ok (.mk .root [if negated then .mk .not [callNode name first second]
        else callNode name first second]) := by
  cases negated <;>
    simp [callTokens, callNode, Node.ofTokens, Roots.steps, Roots.step, Roots.add, Roots.addNode,
      Roots.addSequence, Roots.close, Roots.collapseAll, Roots.collapse, Node.insert, Node.leaf,
      Node.emptyRoot, Node.operator, Node.children, Node.push, Node.isFull, Operator.isSequence,
      Operator.isTuple, Operator.isChain, Operator.isLeaf, Operator.holds, Operator.precedence,
      Operator.isUnary, Operator.arity?, Operator.isRoot, identifierOperator,
      Token.isAssignment, Token.startsValue, bind, Except.bind, pure, Except.pure]

private theorem eval_callNode (vocabulary : Vocabulary) (name : String) (first second : Value) :
    (callNode name first second).eval vocabulary =
      call vocabulary name (.tuple [first, second]) := by
  simp [callNode, Node.leaf, Node.eval, Node.evalAll, Operator.apply, bind, Except.bind, pure,
    Except.pure]

private theorem eval_root (vocabulary : Vocabulary) (node : Node) :
    (Node.mk .root [node]).eval vocabulary = node.eval vocabulary := by
  cases h : node.eval vocabulary <;>
    simp [Node.eval, Node.evalAll, Operator.apply, h, bind, Except.bind, pure, Except.pure]

private theorem eval_not {vocabulary : Vocabulary} {node : Node} {b : Bool}
    (h : node.eval vocabulary = .ok (.boolean b)) :
    (Node.mk .not [node]).eval vocabulary = .ok (.boolean !b) := by
  simp [Node.eval, Node.evalAll, Operator.apply, h, Value.asBoolean, bind, Except.bind, pure,
    Except.pure]

/-- A call with two string literals has the value of the function at the two texts, and the negated
    call the opposite one. -/
theorem evalBoolean_callText {vocabulary : Vocabulary} (negated : Bool)
    {name first second : List Char} {result : Bool}
    (hname : ∀ c ∈ name, isWordChar c = true) (hne : name ≠ []) (hconstant : constant? name = none)
    (hfirst : Plain first) (hsecond : Plain second)
    (hcall : call vocabulary (String.ofList name) (.tuple
      [.string (String.ofList first), .string (String.ofList second)]) = .ok (.boolean result)) :
    evalBoolean vocabulary (callText negated name first second) = .ok (negated ^^ result) := by
  have hnode : (callNode (String.ofList name) (.string (String.ofList first))
      (.string (String.ofList second))).eval vocabulary = .ok (.boolean result) := by
    rw [eval_callNode, hcall]
  simp only [evalBoolean, tokens_callText negated hname hne hconstant hfirst hsecond,
    ofTokens_callTokens, bind, Except.bind]
  cases negated with
  | false =>
    simp only [Bool.false_eq_true, if_false, eval_root, hnode, Bool.false_xor]
    rfl
  | true =>
    simp only [if_true, eval_root, eval_not hnode, Bool.true_xor]
    rfl

end RuleVerify.Expr
