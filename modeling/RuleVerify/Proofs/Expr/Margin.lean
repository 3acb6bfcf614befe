import RuleVerify.Expr.Eval
import RuleVerify.Proofs.Expr.Literal
import RuleVerify.Proofs.Text.Blank

namespace RuleVerify.Expr

variable {α β : Type} {cs back rest : List Char} {c d : Char} {ms : List Mark}
  {first second : Except Fault (List Mark)}

private theorem toOption_map (f : α → β) (result : Except Fault α) :
    (f <$> result).toOption = result.toOption.map f := by
  cases result <;> rfl

private theorem toOption_bind (result : Except Fault α) (f : α → Except Fault β) :
    (result >>= f).toOption = result.toOption.bind fun a => (f a).toOption := by
  cases result <;> rfl

/-- Blanks have been added behind the marks; a fault may have become another one. -/
def Padded (first second : Except Fault (List Mark)) : Prop :=
  ∃ n, second.toOption = first.toOption.map (· ++ List.replicate n .blank)

private theorem padded_of_toOption_eq_none (hfirst : first.toOption = none)
    (hsecond : second.toOption = none) : Padded first second :=
  ⟨0, by simp [hfirst, hsecond]⟩

/-- What treats marks the same with and without blanks behind them keeps two results padded. -/
theorem Padded.map {f : List Mark → List Mark} (h : Padded first second)
    (hf : ∀ ms n, f (ms ++ List.replicate n .blank) = f ms ++ List.replicate n .blank) :
    Padded (f <$> first) (f <$> second) := by
  obtain ⟨n, hn⟩ := h
  refine ⟨n, ?_⟩
  rw [toOption_map, toOption_map, hn, Option.map_map, Option.map_map]
  congr 1
  funext ms
  exact hf ms n

/-- A mark in front keeps two results padded. -/
theorem Padded.cons (mark : Mark) (h : Padded first second) :
    Padded ((mark :: ·) <$> first) ((mark :: ·) <$> second) :=
  h.map fun _ _ => rfl

/-- A character of a word in front keeps two results padded. It may join the first word of both. -/
theorem Padded.consWord (c : Char) (h : Padded first second) :
    Padded (consWord c <$> first) (consWord c <$> second) := by
  apply h.map
  intro ms n
  cases ms with
  | nil => cases n <;> rfl
  | cons mark ms => cases mark <;> rfl

private theorem ne_of_isBlank (hblank : Text.isBlank c = true) (hd : Text.isBlank d = false) :
    c ≠ d := by
  rintro rfl
  rw [hblank] at hd
  cases hd

private theorem not_mem_signs_of_isBlank (hblank : Text.isBlank c = true) : c ∉ signs := by
  intro hsign
  have hnone : signs.any Text.isBlank = false := by decide
  have hnot := List.any_eq_false.mp hnone c hsign
  exact hnot hblank

private theorem marksFrom_of_allBlank (hback : Text.allBlank back = true) :
    marksFrom .ground back = .ok (List.replicate back.length .blank) := by
  induction back with
  | nil => rfl
  | cons c back ih =>
    obtain ⟨hc, hback⟩ := Text.allBlank_cons.mp hback
    exact marksFrom_blank hc (not_mem_signs_of_isBlank hc) (ne_of_isBlank hc (by decide)) (ih hback)

/-- A comment up to the end of the line may end inside the white space or not. -/
theorem exists_marksFrom_lineComment (hback : Text.allBlank back = true) :
    ∃ n, marksFrom .lineComment back = .ok (List.replicate n .blank) := by
  induction back with
  | nil => exact ⟨0, rfl⟩
  | cons c back ih =>
    obtain ⟨-, hback⟩ := Text.allBlank_cons.mp hback
    rw [marksFrom]
    split
    · exact ⟨back.length, marksFrom_of_allBlank hback⟩
    · exact ih hback

private theorem toOption_marksFrom_string (before : List Char) (hback : Text.allBlank back = true) :
    (marksFrom (.string before) back).toOption = none := by
  induction back generalizing before with
  | nil => rfl
  | cons c back ih =>
    obtain ⟨hc, hback⟩ := Text.allBlank_cons.mp hback
    rw [marksFrom, if_neg (ne_of_isBlank hc (by decide)), if_neg (ne_of_isBlank hc (by decide))]
    exact ih (c :: before) hback

private theorem toOption_marksFrom_escape (before : List Char) (hback : Text.allBlank back = true) :
    (marksFrom (.escape before) back).toOption = none := by
  cases back with
  | nil => rfl
  | cons c back =>
    obtain ⟨hc, -⟩ := Text.allBlank_cons.mp hback
    have hquote : c ≠ '"' := ne_of_isBlank hc (by decide)
    have hbackslash : c ≠ '\\' := ne_of_isBlank hc (by decide)
    rw [marksFrom, if_neg (by simp [hquote, hbackslash])]
    rfl

private theorem toOption_marksFrom_blockComment (hback : Text.allBlank back = true) :
    (marksFrom .blockComment back).toOption = none := by
  induction back with
  | nil => rfl
  | cons c back ih =>
    obtain ⟨hc, hback⟩ := Text.allBlank_cons.mp hback
    rw [marksFrom]
    · exact ih hback
    · intro rest heq
      exact absurd heq (ne_of_isBlank hc (by decide))

/-- A text that does not begin with a character that is not white space does not begin with it when
    blanks follow, either. -/
theorem append_ne_cons (hback : Text.allBlank back = true) (hd : Text.isBlank d = false)
    (hcs : ∀ rest, cs ≠ d :: rest) (rest : List Char) : cs ++ back ≠ d :: rest := by
  intro heq
  cases cs with
  | nil =>
    rw [List.nil_append] at heq
    rw [heq, Text.allBlank_cons, hd] at hback
    exact Bool.false_ne_true hback.1
  | cons c cs => exact hcs cs (by rw [(List.cons.inj heq).1])

/-- A character that begins no comment. -/
theorem marksFrom_ground (hline : ∀ rest, c = '/' → cs = '/' :: rest → False)
    (hblock : ∀ rest, c = '/' → cs = '*' :: rest → False) :
    marksFrom .ground (c :: cs) =
      if c = '"' then marksFrom (.string []) cs
      else if c ∈ signs then (.sign c :: ·) <$> marksFrom .ground cs
      else if Text.isBlank c then (.blank :: ·) <$> marksFrom .ground cs
      else consWord c <$> marksFrom .ground cs := by
  rw [marksFrom]
  · exact hline
  · exact hblock

private theorem marksFrom_ground_append (hback : Text.allBlank back = true)
    (hline : ∀ rest, c = '/' → cs = '/' :: rest → False)
    (hblock : ∀ rest, c = '/' → cs = '*' :: rest → False) :
    marksFrom .ground (c :: cs ++ back) =
      if c = '"' then marksFrom (.string []) (cs ++ back)
      else if c ∈ signs then (.sign c :: ·) <$> marksFrom .ground (cs ++ back)
      else if Text.isBlank c then (.blank :: ·) <$> marksFrom .ground (cs ++ back)
      else consWord c <$> marksFrom .ground (cs ++ back) := by
  rw [List.cons_append]
  apply marksFrom_ground
  · intro rest hslash
    exact append_ne_cons hback (by decide) (fun rest => hline rest hslash) rest
  · intro rest hslash
    exact append_ne_cons hback (by decide) (fun rest => hblock rest hslash) rest

/-- The scan of a text goes on as before where blanks follow. -/
theorem padded_marksFrom (scan : Scan) (cs : List Char) (hback : Text.allBlank back = true) :
    Padded (marksFrom scan cs) (marksFrom scan (cs ++ back)) := by
  fun_induction marksFrom scan cs with
  | case1 =>
    refine ⟨back.length, ?_⟩
    rw [List.nil_append, marksFrom_of_allBlank hback]
    rfl
  | case2 cs ih => exact ih
  | case3 cs ih => exact ih
  | case4 cs hline hblock ih =>
    rw [marksFrom_ground_append hback hline hblock, if_pos rfl]
    exact ih
  | case5 c cs hline hblock hquote hsign ih =>
    rw [marksFrom_ground_append hback hline hblock, if_neg hquote, if_pos hsign]
    exact ih.cons (.sign c)
  | case6 c cs hline hblock hquote hsign hblank ih =>
    rw [marksFrom_ground_append hback hline hblock, if_neg hquote, if_neg hsign, if_pos hblank]
    exact ih.cons .blank
  | case7 c cs hline hblock hquote hsign hblank ih =>
    rw [marksFrom_ground_append hback hline hblock, if_neg hquote, if_neg hsign, if_neg hblank]
    exact ih.consWord c
  | case8 before => exact padded_of_toOption_eq_none rfl (toOption_marksFrom_string before hback)
  | case9 before cs ih =>
    rw [List.cons_append, marksFrom, if_pos rfl]
    exact ih.cons (.string before.reverse)
  | case10 before cs hquote ih =>
    rw [List.cons_append, marksFrom, if_neg hquote, if_pos rfl]
    exact ih
  | case11 before c cs hquote hbackslash ih =>
    rw [List.cons_append, marksFrom, if_neg hquote, if_neg hbackslash]
    exact ih
  | case12 before => exact padded_of_toOption_eq_none rfl (toOption_marksFrom_escape before hback)
  | case13 before c cs hescaped ih =>
    rw [List.cons_append, marksFrom, if_pos hescaped]
    exact ih
  | case14 before c cs hescaped =>
    rw [List.cons_append, marksFrom, if_neg hescaped]
    exact padded_of_toOption_eq_none rfl rfl
  | case15 =>
    obtain ⟨n, hn⟩ := exists_marksFrom_lineComment hback
    refine ⟨n, ?_⟩
    rw [List.nil_append, hn]
    rfl
  | case16 c cs ih => exact ih
  | case17 => exact padded_of_toOption_eq_none rfl (toOption_marksFrom_blockComment hback)
  | case18 cs ih => exact ih
  | case19 c cs hclosed ih =>
    rw [List.cons_append, marksFrom]
    · exact ih
    · intro rest hstar
      exact append_ne_cons hback (by decide) (fun rest => hclosed rest hstar) rest

variable {n : Nat}

private theorem tokensPassing_replicate (passing n : Nat) :
    tokensPassing passing (List.replicate n .blank) = .ok [] := by
  induction n generalizing passing with
  | zero => cases passing <;> rfl
  | succ n ih => cases passing <;> exact ih _

private theorem followingSign_append (ms : List Mark) (n : Nat) :
    followingSign (ms ++ List.replicate n .blank) = followingSign ms := by
  cases ms with
  | nil => cases n <;> rfl
  | cons mark ms => cases mark <;> rfl

private theorem updatable_append (plain updated : Token) (ms : List Mark) (n : Nat) :
    updatable plain updated (ms ++ List.replicate n .blank) = updatable plain updated ms := by
  rw [updatable, updatable, followingSign_append]

/-- The marks of a number with a sign in it follow each other directly. -/
theorem wordToken_append (word : List Char) (ms : List Mark) (n : Nat) :
    wordToken word (ms ++ List.replicate n .blank) = wordToken word ms := by
  rw [wordToken, wordToken]
  cases constant? word with
  | some value => rfl
  | none =>
    cases ms with
    | nil => cases n <;> rfl
    | cons mark ms =>
      cases ms with
      | nil => cases mark <;> cases n <;> rfl
      | cons next ms => cases mark <;> cases next <;> rfl

/-- A lone half stays one; only the fault names what follows it. -/
theorem toOption_doubled_append (c : Char) (operator : Binary) (ms : List Mark) (n : Nat) :
    (doubled c operator (ms ++ List.replicate n .blank)).toOption =
      (doubled c operator ms).toOption := by
  rw [doubled, doubled, followingSign_append]
  cases ms with
  | nil => rfl
  | cons mark ms =>
    rw [List.cons_append, List.drop_succ_cons, List.drop_zero, List.drop_succ_cons, List.drop_zero,
      followingSign_append]
    rfl

private theorem toOption_signToken_append (c : Char) (ms : List Mark) (n : Nat) :
    (signToken c (ms ++ List.replicate n .blank)).toOption = (signToken c ms).toOption := by
  unfold signToken
  split <;> simp only [updatable_append, toOption_doubled_append]

/-- Blanks behind the marks change no token, since no token reaches into them. -/
theorem toOption_tokensPassing_append (passing : Nat) (ms : List Mark) (n : Nat) :
    (tokensPassing passing (ms ++ List.replicate n .blank)).toOption =
      (tokensPassing passing ms).toOption := by
  fun_induction tokensPassing passing ms with
  | case1 passing =>
    rw [List.nil_append, tokensPassing_replicate]
    rfl
  | case2 passing mark ms ih => exact ih
  | case3 ms ih => exact ih
  | case4 text ms ih => rw [List.cons_append, tokensPassing, toOption_map, toOption_map, ih]
  | case5 text ms token taken hword ih =>
    rw [List.cons_append, tokensPassing, wordToken_append, hword]
    rw [toOption_map, toOption_map, ih]
  | case6 c ms ih =>
    rw [List.cons_append, tokensPassing, toOption_bind, toOption_bind, toOption_signToken_append]
    congr 1
    funext made
    rw [toOption_map, toOption_map, ih]

/-- White space behind an expression changes no token, wherever the scan stopped. -/
theorem toOption_tokens_append (cs : List Char) (hback : Text.allBlank back = true) :
    (tokens (cs ++ back)).toOption = (tokens cs).toOption := by
  obtain ⟨n, hn⟩ := padded_marksFrom .ground cs hback
  rw [tokens, tokens, toOption_bind, toOption_bind, marks, marks, hn]
  cases marksFrom .ground cs with
  | error fault => rfl
  | ok ms => exact toOption_tokensPassing_append 0 ms n

/-- An expression has the same truth value, or none, with white space behind it. -/
theorem toOption_evalBoolean_append (vocabulary : Vocabulary) (cs : List Char)
    (hback : Text.allBlank back = true) :
    (evalBoolean vocabulary (cs ++ back)).toOption = (evalBoolean vocabulary cs).toOption := by
  rw [evalBoolean, evalBoolean, toOption_bind, toOption_bind, toOption_tokens_append cs hback]

end RuleVerify.Expr
