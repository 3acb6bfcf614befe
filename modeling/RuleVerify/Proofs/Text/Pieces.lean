import Mathlib.Data.List.Infix
import RuleVerify.Proofs.Text.Joints

namespace RuleVerify.Text

variable {d cs piece : List Char}

/-- A trimmed text is a part of the text. -/
theorem trim_isInfix (cs : List Char) : trim cs <:+: cs := by
  obtain ⟨front, -, hfront⟩ := exists_trimStart cs
  obtain ⟨back, -, hback⟩ := exists_trimEnd (trimStart cs)
  refine ⟨front, back, ?_⟩
  rw [trim, List.append_assoc, ← hback, ← hfront]

private theorem isPrefix_of_splitOn_eq_cons {pieces : List (List Char)} (hd : d ≠ [])
    (hsplit : splitOn d cs = piece :: pieces) : piece <+: cs := by
  have hjoin := intercalate_splitOn hd cs
  rw [hsplit] at hjoin
  rw [← hjoin]
  by_cases hnil : pieces = []
  · simp [hnil]
  · simp [List.intercalate_cons_of_ne_nil hnil]

/-- Every piece is a part of the text. The delimiter may be empty. -/
theorem isInfix_of_mem_splitOn (hmem : piece ∈ splitOn d cs) : piece <:+: cs := by
  by_cases hd : d = []
  · rw [splitOn, if_pos (by simp [hd])] at hmem
    obtain rfl | ⟨c, hc, rfl⟩ : piece = [] ∨ ∃ c ∈ cs, [c] = piece := by
      simp only [List.mem_cons, List.mem_append, List.mem_map] at hmem
      tauto
    · exact List.nil_infix
    · rwa [List.singleton_infix_iff]
  induction cs using split_induction hd generalizing piece with
  | nil => simp_all
  | delimiter cs ih =>
    rw [splitOn_delimiter_append hd] at hmem
    obtain rfl | hrest := List.mem_cons.mp hmem
    · exact List.nil_infix
    · exact List.infix_append_of_infix_right (ih hrest)
  | char c cs hno ih =>
    obtain ⟨first, pieces, hsplit⟩ := List.exists_cons_of_ne_nil (splitOn_ne_nil hd cs)
    rw [splitOn_cons hd hno, hsplit, List.modifyHead_cons] at hmem
    obtain rfl | hrest := List.mem_cons.mp hmem
    · have hfirst := isPrefix_of_splitOn_eq_cons hd hsplit
      exact (List.cons_prefix_cons.mpr ⟨rfl, hfirst⟩).isInfix
    · exact List.infix_cons (ih (hsplit ▸ List.mem_cons_of_mem first hrest))

/-- No delimiter is left in a piece. The cutting goes on behind each one that is found, also where
    they overlap. -/
theorem not_infix_of_mem_splitOn (hd : d ≠ []) (hmem : piece ∈ splitOn d cs) :
    ¬ d <:+: piece := by
  induction cs using split_induction hd generalizing piece with
  | nil => simp_all
  | delimiter cs ih =>
    rw [splitOn_delimiter_append hd] at hmem
    obtain rfl | hrest := List.mem_cons.mp hmem
    · simpa using hd
    · exact ih hrest
  | char c cs hno ih =>
    obtain ⟨first, pieces, hsplit⟩ := List.exists_cons_of_ne_nil (splitOn_ne_nil hd cs)
    rw [hsplit] at ih
    rw [splitOn_cons hd hno, hsplit, List.modifyHead_cons] at hmem
    obtain rfl | hrest := List.mem_cons.mp hmem
    · -- A delimiter at the front of the piece would be one at the front of the text.
      have hfirst := isPrefix_of_splitOn_eq_cons hd hsplit
      rw [List.infix_cons_iff, not_or]
      refine ⟨?_, ih List.mem_cons_self⟩
      intro hfront
      exact hno (hfront.trans (List.cons_prefix_cons.mpr ⟨rfl, hfirst⟩))
    · exact ih (List.mem_cons_of_mem first hrest)

end RuleVerify.Text
