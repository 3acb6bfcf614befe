import RuleVerify.Text.Blank

namespace RuleVerify.Text

variable {cs piece word : List Char} {c : Char}

private theorem subset_of_mem_splitOnP {p : Char → Bool} (hmem : piece ∈ cs.splitOnP p) :
    piece ⊆ cs := by
  induction cs generalizing piece with
  | nil => simp_all
  | cons d cs ih =>
    rw [List.splitOnP_cons_eq_if_modifyHead] at hmem
    split at hmem
    · obtain rfl | htail := List.mem_cons.mp hmem
      · exact List.nil_subset _
      · exact List.Subset.trans (ih htail) (List.subset_cons_self d cs)
    · obtain ⟨first, pieces, hsplit⟩ := List.exists_cons_of_ne_nil (List.splitOnP_ne_nil p cs)
      rw [hsplit] at hmem ih
      rw [List.modifyHead_cons] at hmem
      obtain rfl | htail := List.mem_cons.mp hmem
      · exact List.cons_subset_cons d (ih List.mem_cons_self)
      · exact List.Subset.trans (ih (List.mem_cons_of_mem first htail)) (List.subset_cons_self d cs)

/-- No piece holds a character at which the text is cut. -/
theorem not_of_mem_splitOnP {p : Char → Bool} (hmem : piece ∈ cs.splitOnP p) (hc : c ∈ piece) :
    p c = false := by
  induction cs generalizing piece with
  | nil => simp_all
  | cons d cs ih =>
    rw [List.splitOnP_cons_eq_if_modifyHead] at hmem
    split at hmem
    · obtain rfl | htail := List.mem_cons.mp hmem
      · simp at hc
      · exact ih htail hc
    · rename_i hd
      obtain ⟨first, pieces, hsplit⟩ := List.exists_cons_of_ne_nil (List.splitOnP_ne_nil p cs)
      rw [hsplit] at hmem ih
      rw [List.modifyHead_cons] at hmem
      obtain rfl | htail := List.mem_cons.mp hmem
      · obtain rfl | hfirst := List.mem_cons.mp hc
        · simpa using hd
        · exact ih List.mem_cons_self hfirst
      · exact ih (List.mem_cons_of_mem first htail) hc

private theorem subset_of_mem_words (hmem : word ∈ words cs) : word ⊆ cs :=
  subset_of_mem_splitOnP (List.mem_filter.mp hmem).1

private theorem mem_intercalate {delimiter : List Char} {pieces : List (List Char)}
    (hmem : c ∈ List.intercalate delimiter pieces) :
    c ∈ delimiter ∨ ∃ piece ∈ pieces, c ∈ piece := by
  induction pieces with
  | nil => simp at hmem
  | cons piece pieces ih =>
    by_cases hnil : pieces = []
    · rw [hnil, List.intercalate_singleton] at hmem
      exact Or.inr ⟨piece, List.mem_cons_self, hmem⟩
    · rw [List.intercalate_cons_of_ne_nil hnil, List.mem_append, List.mem_append] at hmem
      obtain (hpiece | hdelimiter) | hrest := hmem
      · exact Or.inr ⟨piece, List.mem_cons_self, hpiece⟩
      · exact Or.inl hdelimiter
      · obtain hdelimiter | ⟨other, hother, hc⟩ := ih hrest
        · exact Or.inl hdelimiter
        · exact Or.inr ⟨other, List.mem_cons_of_mem piece hother, hc⟩

/-- Canonical spacing adds no character but blanks. -/
theorem mem_normalizeSpace (hmem : c ∈ normalizeSpace cs) : c = ' ' ∨ c ∈ cs := by
  obtain hblank | ⟨word, hword, hc⟩ := mem_intercalate hmem
  · exact Or.inl (List.mem_singleton.mp hblank)
  · exact Or.inr (subset_of_mem_words hword hc)

/-- A single blank is the only white space of a text in canonical spacing. -/
theorem eq_blank_of_mem_normalizeSpace (hmem : c ∈ normalizeSpace cs) (hblank : isBlank c = true) :
    c = ' ' := by
  obtain hdelimiter | ⟨word, hword, hc⟩ := mem_intercalate hmem
  · exact List.mem_singleton.mp hdelimiter
  · have hnot := not_of_mem_splitOnP (List.mem_filter.mp hword).1 hc
    rw [hnot] at hblank
    cases hblank

end RuleVerify.Text
