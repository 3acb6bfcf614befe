import RuleVerify.Proofs.Text.Blank

namespace RuleVerify.Text

variable {part cs ds margin : List Char} {c : Char}

private theorem infix_append_left_iff (hne : part ≠ []) (hmargin : ∀ c ∈ part, c ∉ margin) :
    part <:+: margin ++ cs ↔ part <:+: cs := by
  constructor
  · intro hpart
    obtain hinside | hcs | ⟨front, back, hfront, -, rfl, hsuffix, -⟩ :=
      List.infix_append_iff_ne_nil.mp hpart
    · have hhead := List.head_mem hne
      exact absurd (hinside.subset hhead) (hmargin _ hhead)
    · exact hcs
    · have hhead := List.head_mem hfront
      exact absurd (hsuffix.subset hhead) (hmargin _ (List.mem_append_left back hhead))
  · exact List.infix_append_of_infix_right

private theorem infix_append_right_iff (hne : part ≠ []) (hmargin : ∀ c ∈ part, c ∉ margin) :
    part <:+: cs ++ margin ↔ part <:+: cs := by
  have hreverse : part.reverse <:+: margin.reverse ++ cs.reverse ↔ part.reverse <:+: cs.reverse :=
    infix_append_left_iff (by simpa using hne) (by simpa using hmargin)
  rwa [← List.reverse_append, List.reverse_infix, List.reverse_infix] at hreverse

/-- A part without white space is not trimmed away. -/
theorem infix_trim_iff (hne : part ≠ []) (hpart : ∀ c ∈ part, isBlank c = false) :
    part <:+: trim cs ↔ part <:+: cs := by
  have hmargin (margin : List Char) (hblank : allBlank margin = true) : ∀ c ∈ part, c ∉ margin := by
    intro c hc hmem
    have hboth := hpart c hc
    rw [List.all_eq_true.mp hblank c hmem] at hboth
    cases hboth
  obtain ⟨front, hfront, hstart⟩ := exists_trimStart cs
  obtain ⟨back, hback, hend⟩ := exists_trimEnd (trimStart cs)
  conv_rhs => rw [hstart, infix_append_left_iff hne (hmargin front hfront), hend,
    infix_append_right_iff hne (hmargin back hback)]
  rfl

/-- A character that the part does not hold keeps its two sides apart. -/
theorem infix_append_cons_iff (hne : part ≠ []) (hc : c ∉ part) :
    part <:+: cs ++ c :: ds ↔ part <:+: cs ∨ part <:+: ds := by
  have hright : part <:+: [c] ++ ds ↔ part <:+: ds := by
    apply infix_append_left_iff hne
    intro d hd hmem
    exact hc (List.mem_singleton.mp hmem ▸ hd)
  rw [List.singleton_append] at hright
  constructor
  · intro hpart
    obtain hcs | hds | ⟨front, back, -, hback, rfl, -, hprefix⟩ :=
      List.infix_append_iff_ne_nil.mp hpart
    · exact Or.inl hcs
    · exact Or.inr (hright.mp hds)
    · obtain ⟨d, back, rfl⟩ := List.exists_cons_of_ne_nil hback
      obtain ⟨rfl, -⟩ := List.cons_prefix_cons.mp hprefix
      simp at hc
  · rintro (hcs | hds)
    · exact List.infix_append_of_infix_left hcs
    · exact List.infix_append_of_infix_right (hright.mpr hds)

private theorem infix_intercalate_iff (hne : part ≠ []) (hc : c ∉ part)
    (pieces : List (List Char)) :
    part <:+: List.intercalate [c] pieces ↔ ∃ piece ∈ pieces, part <:+: piece := by
  induction pieces with
  | nil => simpa using hne
  | cons piece pieces ih =>
    by_cases hnil : pieces = []
    · simp [hnil]
    · rw [List.intercalate_cons_of_ne_nil hnil, List.append_assoc, List.singleton_append,
        infix_append_cons_iff hne hc, ih]
      simp

/-- A part without the character at which a text is cut stands in one of the pieces. -/
theorem infix_iff_exists_piece (hne : part ≠ []) (hc : c ∉ part) :
    part <:+: cs ↔ ∃ piece ∈ cs.splitOn c, part <:+: piece := by
  rw [← infix_intercalate_iff hne hc, List.intercalate_splitOn]

end RuleVerify.Text
