import RuleVerify.Expr.Token

namespace RuleVerify.Expr

variable {rest : List Char} {ms : List Mark}

/-- A text that a string literal holds as it is. -/
def Plain (cs : List Char) : Prop := '"' ∉ cs ∧ '\\' ∉ cs

instance {cs : List Char} : Decidable (Plain cs) := inferInstanceAs (Decidable (_ ∧ _))

/-- A character that is neither a mark of its own nor white space, nor begins a string. -/
def isWordChar (c : Char) : Bool := c != '"' && !signs.contains c && !Text.isBlank c

/-- Inside a string literal every text without quotes and backslashes stands for itself. -/
theorem marksFrom_string {text before : List Char} (hplain : Plain text)
    (hrest : marksFrom .ground rest = .ok ms) :
    marksFrom (.string before) (text ++ '"' :: rest) =
      .ok (.string (before.reverse ++ text) :: ms) := by
  obtain ⟨hquote, hbackslash⟩ := hplain
  induction text generalizing before with
  | nil =>
    simp only [List.nil_append, List.append_nil, marksFrom, hrest]
    rfl
  | cons c text ih =>
    simp only [List.mem_cons, not_or] at hquote hbackslash
    rw [List.cons_append, marksFrom, if_neg (Ne.symm hquote.1), if_neg (Ne.symm hbackslash.1),
      ih hquote.2 hbackslash.2]
    simp

/-- A string literal is one mark. -/
theorem marksFrom_literal {text : List Char} (hplain : Plain text)
    (hrest : marksFrom .ground rest = .ok ms) :
    marksFrom .ground ('"' :: (text ++ '"' :: rest)) = .ok (.string text :: ms) := by
  have hstring : marksFrom (.string []) (text ++ '"' :: rest) = .ok (.string ([] ++ text) :: ms) :=
    marksFrom_string hplain hrest
  rw [marksFrom] <;> simp [hstring]

/-- Outside strings and comments a sign other than the slash is a mark. -/
theorem marksFrom_sign {c : Char} (hsign : c ∈ signs) (hslash : c ≠ '/')
    (hrest : marksFrom .ground rest = .ok ms) :
    marksFrom .ground (c :: rest) = .ok (.sign c :: ms) := by
  have hquote : c ≠ '"' := by
    rintro rfl
    simp [signs] at hsign
  rw [marksFrom, hrest] <;> simp [hquote, hsign, hslash, Functor.map, Except.map]

/-- White space is one mark for each character. -/
theorem marksFrom_blank {c : Char} (hblank : Text.isBlank c = true) (hsign : c ∉ signs)
    (hquote : c ≠ '"') (hrest : marksFrom .ground rest = .ok ms) :
    marksFrom .ground (c :: rest) = .ok (.blank :: ms) := by
  have hslash : c ≠ '/' := by
    rintro rfl
    simp [signs] at hsign
  rw [marksFrom, hrest] <;> simp [hquote, hsign, hslash, hblank, Functor.map, Except.map]

private theorem marksFrom_wordChar {c : Char} (hc : isWordChar c = true) :
    marksFrom .ground (c :: rest) = consWord c <$> marksFrom .ground rest := by
  simp only [isWordChar, Bool.and_eq_true, bne_iff_ne, Bool.not_eq_true', ne_eq,
    List.contains_eq_mem, decide_eq_false_iff_not] at hc
  obtain ⟨⟨hquote, hsign⟩, hblank⟩ := hc
  have hslash : c ≠ '/' := by
    rintro rfl
    simp [signs] at hsign
  rw [marksFrom] <;> simp [hquote, hsign, hslash, hblank]

/-- A run of word characters is one mark, if what follows does not begin with another word. -/
theorem marksFrom_word {word : List Char} (hword : ∀ c ∈ word, isWordChar c = true)
    (hne : word ≠ []) (hrest : marksFrom .ground rest = .ok ms)
    (hend : ∀ text tail, ms ≠ .word text :: tail) :
    marksFrom .ground (word ++ rest) = .ok (.word word :: ms) := by
  induction word with
  | nil => exact absurd rfl hne
  | cons c word ih =>
    simp only [List.mem_cons, forall_eq_or_imp] at hword
    rw [List.cons_append, marksFrom_wordChar hword.1]
    by_cases hnil : word = []
    · subst hnil
      have hcons : consWord c ms = .word [c] :: ms := by
        unfold consWord
        split
        · exact absurd rfl (hend _ _)
        · rfl
      rw [List.nil_append, hrest, ← hcons]
      rfl
    · rw [ih hword.2 hnil]
      rfl

end RuleVerify.Expr
