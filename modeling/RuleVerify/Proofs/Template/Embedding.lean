import RuleVerify.Proofs.Template.Reading
import RuleVerify.Proofs.Text.Words

namespace RuleVerify.Template

variable {front back cs : List Char} {c : Char}

/-- No opening begins in the text, whatever follows it. -/
structure OpensNothing (front : List Char) : Prop where
  not_inside : ¬ opening <:+: front
  not_suffix : ¬ ['$'] <:+ front

/-- Text without a dollar sign opens nothing. -/
theorem opensNothing_of_not_mem (hfront : '$' ∉ front) : OpensNothing front := by
  refine ⟨fun hinside => hfront (hinside.subset ?_), fun hsuffix => hfront (hsuffix.subset ?_)⟩ <;>
    simp [opening]

/-- What is left of a text that opens nothing opens nothing. -/
theorem OpensNothing.tail (h : OpensNothing (c :: front)) : OpensNothing front :=
  ⟨fun hinside => h.not_inside (List.infix_cons hinside),
    fun hsuffix => h.not_suffix (List.suffix_cons_iff.mpr (Or.inr hsuffix))⟩

private theorem OpensNothing.not_begun (h : OpensNothing (c :: front)) :
    ¬ opening <+: c :: (front ++ cs) := by
  intro hprefix
  cases front with
  | nil =>
    have hdollar : c = '$' := (List.cons_prefix_cons.mp hprefix).1.symm
    exact h.not_suffix (by simp [hdollar])
  | cons b front =>
    have hshort : opening <+: c :: b :: front :=
      List.prefix_of_prefix_length_le hprefix (List.prefix_append (c :: b :: front) cs)
        (by simp [opening])
    exact h.not_inside hshort.isInfix

/-- No opening begins in front, and none reaches from there into the text. -/
theorem opening_infix_append_iff (hfront : OpensNothing front) :
    opening <:+: front ++ cs ↔ opening <:+: cs := by
  induction front with
  | nil => rw [List.nil_append]
  | cons d front ih =>
    rw [List.cons_append, List.infix_cons_iff, ih hfront.tail]
    simp [hfront.not_begun]

private theorem hasPlaceholder_append_left (hfront : OpensNothing front)
    (h : HasPlaceholder (front ++ cs)) : HasPlaceholder cs := by
  induction front with
  | nil => exact h
  | cons d front ih =>
    obtain ⟨before, after, heq, hmem⟩ := h
    apply ih hfront.tail
    cases before with
    | nil => exact absurd ⟨after, heq.symm⟩ hfront.not_begun
    | cons b before => exact ⟨before, after, (List.cons.inj heq).2, hmem⟩

private theorem hasPlaceholder_append_right (hback : '\x7d' ∉ back)
    (h : HasPlaceholder (cs ++ back)) :
    HasPlaceholder cs := by
  obtain ⟨before, after, heq, hmem⟩ := h
  obtain ⟨middle, -, htail⟩ | ⟨middle, rfl, htail⟩ := List.append_eq_append_iff.mp heq
  · exact absurd (by simp [htail, hmem]) hback
  · rw [htail, List.mem_append] at hmem
    exact ⟨before, middle, rfl, hmem.resolve_right hback⟩

namespace Segments

/-- The segments of a text with another text in front of it and one behind it. -/
def embed (front back : List Char) : Segments → Segments
  | ⟨[], tail⟩ => ⟨[], front ++ tail ++ back⟩
  | ⟨hole :: holes, tail⟩ => ⟨⟨front ++ hole.before, hole.name⟩ :: holes, tail ++ back⟩

private theorem write_embed (f : List Char → List Char) (s : Segments) :
    (s.embed front back).write f = front ++ s.write f ++ back := by
  obtain ⟨holes, tail⟩ := s
  cases holes with
  | nil => simp [embed, write]
  | cons hole holes => simp [embed, write]

/-- Text in front in which nothing is opened and text behind in which nothing is closed leave the
    reading as it is. -/
theorem Reads.embed {s : Segments} (h : s.Reads cs) (hfront : OpensNothing front)
    (hback : '\x7d' ∉ back) : (s.embed front back).Reads (front ++ cs ++ back) := by
  obtain ⟨holes, tail⟩ := s
  have hwrite : (Segments.embed front back ⟨holes, tail⟩).write placeholder =
      front ++ cs ++ back := by
    rw [write_embed, h.write_eq]
  cases holes with
  | nil =>
    refine ⟨hwrite, by simp [Segments.embed], by simp [Segments.embed], fun hplaceholder => ?_⟩
    rw [Segments.embed] at hplaceholder
    apply h.tail
    exact hasPlaceholder_append_left hfront (hasPlaceholder_append_right hback hplaceholder)
  | cons hole holes =>
    have hbefore := h.before
    have hname := h.name
    simp only [List.mem_cons, forall_eq_or_imp] at hbefore hname
    have htail : ¬ HasPlaceholder (tail ++ back) :=
      fun hplaceholder => h.tail (hasPlaceholder_append_right hback hplaceholder)
    refine ⟨hwrite, ?_, ?_, htail⟩
    · simpa [Segments.embed, opening_infix_append_iff hfront] using hbefore
    · simpa [Segments.embed] using hname

end Segments

/-- The scan finds the same placeholders in a longer text. -/
theorem segments_embed (hfront : OpensNothing front) (hback : '\x7d' ∉ back) :
    segments (front ++ cs ++ back) = (segments cs).embed front back :=
  ((reads_segments cs).embed hfront hback).eq_segments.symm

/-- Substitution into a longer text acts on the template alone. -/
theorem substitute_embed (values : Values) (template : String) (hfront : '$' ∉ front)
    (hback : '\x7d' ∉ back) :
    substitute values (String.ofList (front ++ template.toList ++ back)) =
      String.ofList (front ++ (substitute values template).toList ++ back) := by
  rw [substitute_eq, substitute_eq, String.toList_ofList, String.toList_ofList,
    segments_embed (opensNothing_of_not_mem hfront) hback, Segments.write_embed]

private theorem Segments.mem_write {f : List Char → List Char} {s : Segments}
    (hmem : c ∈ s.write f) :
    c ∈ s.write placeholder ∨ ∃ hole ∈ s.holes, c ∈ f hole.name := by
  rw [write, List.mem_append, List.mem_flatMap] at hmem
  obtain ⟨hole, hhole, hc⟩ | htail := hmem
  · obtain hbefore | hname := List.mem_append.mp hc
    · refine Or.inl (List.mem_append_left _ (List.mem_flatMap.mpr ⟨hole, hhole, ?_⟩))
      exact List.mem_append_left _ hbefore
    · exact Or.inr ⟨hole, hhole, hname⟩
  · exact Or.inl (List.mem_append_right _ htail)

private theorem mem_fill {values : Values} {name : List Char} (hmem : c ∈ fill values name) :
    c ∈ placeholder name ∨
      ∃ value, values.get? (String.ofList name) = some value ∧
        c ∈ Text.normalizeSpace value.toList := by
  unfold fill at hmem
  split at hmem
  · rename_i value hvalue
    exact Or.inr ⟨value, hvalue, hmem⟩
  · exact Or.inl hmem

/-- Every character that comes out of a substitution stood in the template or in a value, blanks
    apart. -/
theorem mem_substitute {values : Values} {expression : String}
    (hmem : c ∈ (substitute values expression).toList) :
    c ∈ expression.toList ∨
      ∃ name value, values.get? name = some value ∧ c ∈ Text.normalizeSpace value.toList := by
  have hwhole := (reads_segments expression.toList).write_eq
  rw [substitute_eq, String.toList_ofList] at hmem
  obtain hliteral | ⟨hole, hhole, hfill⟩ := Segments.mem_write hmem
  · rw [hwhole] at hliteral
    exact Or.inl hliteral
  · obtain hname | ⟨value, hvalue, hc⟩ := mem_fill hfill
    · left
      rw [← hwhole, Segments.write]
      apply List.mem_append_left
      exact List.mem_flatMap.mpr ⟨hole, hhole, List.mem_append_right _ hname⟩
    · exact Or.inr ⟨_, value, hvalue, hc⟩

/-- A character that stands neither in the template nor in a value does not come out. A blank may.
    -/
theorem not_mem_substitute {values : Values} {expression : String} (hblank : c ≠ ' ')
    (hexpression : c ∉ expression.toList)
    (hvalues : ∀ name value, values.get? name = some value → c ∉ value.toList) :
    c ∉ (substitute values expression).toList := by
  intro hmem
  obtain hc | ⟨name, value, hvalue, hc⟩ := mem_substitute hmem
  · exact hexpression hc
  · obtain hspace | hinside := Text.mem_normalizeSpace hc
    · exact hblank hspace
    · exact hvalues name value hvalue hinside

/-- Values bring no white space other than single blanks, whatever they hold. -/
theorem not_mem_substitute_of_isBlank {values : Values} {expression : String}
    (hwhite : Text.isBlank c = true) (hblank : c ≠ ' ') (hexpression : c ∉ expression.toList) :
    c ∉ (substitute values expression).toList := by
  intro hmem
  obtain hc | ⟨name, value, -, hc⟩ := mem_substitute hmem
  · exact hexpression hc
  · exact hblank (Text.eq_blank_of_mem_normalizeSpace hc hwhite)

end RuleVerify.Template
