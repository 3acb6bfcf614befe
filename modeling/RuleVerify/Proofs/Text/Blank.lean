import Mathlib.Data.List.DropRight
import RuleVerify.Text.Blank

namespace RuleVerify.Text

variable {cs ds : List Char}

/-- A text is blank when its first character is white space and the rest is blank. -/
theorem allBlank_cons {c : Char} :
    allBlank (c :: cs) = true ↔ isBlank c = true ∧ allBlank cs = true := by
  simp [allBlank]

/-- Two texts together are blank when both are. -/
@[simp] theorem allBlank_append : allBlank (cs ++ ds) = (allBlank cs && allBlank ds) :=
  List.all_append

@[simp] theorem allBlank_reverse : allBlank cs.reverse = allBlank cs := List.all_reverse

/-- Trimming at the start leaves nothing exactly of a blank text. -/
theorem trimStart_eq_nil_iff : trimStart cs = [] ↔ allBlank cs = true := by
  rw [trimStart, List.dropWhile_eq_nil_iff, allBlank, List.all_eq_true]

/-- Trimming at the end leaves nothing exactly of a blank text. -/
theorem trimEnd_eq_nil_iff : trimEnd cs = [] ↔ allBlank cs = true := by
  rw [trimEnd, List.reverse_eq_nil_iff, ← trimStart, trimStart_eq_nil_iff, allBlank_reverse]

/-- Trimming at the start reaches the second of two texts only through a blank first one. -/
theorem trimStart_append :
    trimStart (cs ++ ds) = if allBlank cs then trimStart ds else trimStart cs ++ ds := by
  have hempty : (trimStart cs).isEmpty = allBlank cs := by
    rw [Bool.eq_iff_iff, List.isEmpty_iff, trimStart_eq_nil_iff]
  simp only [← hempty, trimStart]
  exact List.dropWhile_append

/-- Trimming at the end reaches the first of two texts only through a blank second one. -/
theorem trimEnd_append :
    trimEnd (cs ++ ds) = if allBlank ds then trimEnd cs else cs ++ trimEnd ds := by
  have hstart : trimStart (ds.reverse ++ cs.reverse) =
      if allBlank ds.reverse then trimStart cs.reverse else trimStart ds.reverse ++ cs.reverse :=
    trimStart_append
  simp only [trimStart, allBlank_reverse] at hstart
  simp only [trimEnd, List.reverse_append, hstart]
  split <;> simp

/-- A text is white space and what trimming leaves of it at the start. -/
theorem exists_trimStart (cs : List Char) :
    ∃ margin, allBlank margin = true ∧ cs = margin ++ trimStart cs :=
  ⟨cs.takeWhile isBlank, List.all_takeWhile, List.takeWhile_append_dropWhile.symm⟩

/-- What trimming at the end takes off is blank. -/
theorem exists_trimEnd (cs : List Char) :
    ∃ margin, allBlank margin = true ∧ cs = trimEnd cs ++ margin := by
  obtain ⟨margin, hblank, heq⟩ := exists_trimStart cs.reverse
  refine ⟨margin.reverse, by simpa using hblank, ?_⟩
  rw [trimEnd, ← List.reverse_append]
  exact List.reverse_eq_iff.mp heq

@[simp] theorem allBlank_trimStart : allBlank (trimStart cs) = allBlank cs := by
  obtain ⟨margin, hblank, heq⟩ := exists_trimStart cs
  have happend := congrArg allBlank heq
  rw [allBlank_append, hblank, Bool.true_and] at happend
  exact happend.symm

@[simp] theorem allBlank_trimEnd : allBlank (trimEnd cs) = allBlank cs := by
  obtain ⟨margin, hblank, heq⟩ := exists_trimEnd cs
  have happend := congrArg allBlank heq
  rw [allBlank_append, hblank, Bool.and_true] at happend
  exact happend.symm

/-- A trimmed text is blank exactly when the text is. -/
@[simp] theorem allBlank_trim : allBlank (trim cs) = allBlank cs := by simp [trim]

/-- Nothing is left of a text exactly when it is blank. -/
@[simp] theorem isEmpty_trim : (trim cs).isEmpty = allBlank cs := by
  rw [Bool.eq_iff_iff, List.isEmpty_iff, trim, trimEnd_eq_nil_iff, allBlank_trimStart]

/-- White space in front of a text does not change what trimming leaves. -/
theorem trim_append_of_blank_left (hblank : allBlank cs = true) : trim (cs ++ ds) = trim ds := by
  rw [trim, trimStart_append, if_pos hblank, trim]

/-- White space behind a text is trimmed away with that of the text. -/
theorem trim_append_of_blank_right (hblank : allBlank ds = true) : trim (cs ++ ds) = trim cs := by
  rw [trim, trim, trimStart_append]
  split
  · rename_i hcs
    rw [trimStart_eq_nil_iff.mpr hblank, trimStart_eq_nil_iff.mpr hcs]
  · rw [trimEnd_append, if_pos hblank]

@[simp] theorem trim_trim : trim (trim cs) = trim cs := by
  obtain ⟨front, hfront, hstart⟩ := exists_trimStart cs
  obtain ⟨back, hback, hend⟩ := exists_trimEnd (trimStart cs)
  conv_rhs => rw [hstart, trim_append_of_blank_left hfront, hend, trim_append_of_blank_right hback]
  rfl

/-- A text that begins with a character that is not white space stops trimming at its start. -/
theorem trimStart_append_of_trimStart_eq (hds : trimStart ds = ds) :
    trimStart (cs ++ ds) = trimStart cs ++ ds := by
  rw [trimStart_append]
  split
  · rename_i hblank
    rw [hds, trimStart_eq_nil_iff.mpr hblank, List.nil_append]
  · rfl

/-- A text without white space at its end is kept, whatever is trimmed behind it. -/
theorem trimEnd_append_of_trimEnd_eq (hcs : trimEnd cs = cs) :
    trimEnd (cs ++ ds) = cs ++ trimEnd ds := by
  rw [trimEnd_append]
  split
  · rename_i hblank
    rw [hcs, trimEnd_eq_nil_iff.mpr hblank, List.append_nil]
  · rfl

/-- Trimming at the start stops inside a text that is not blank, so nothing behind it is reached. -/
theorem trimStart_append_of_not_blank (hcs : allBlank cs = false) :
    trimStart (cs ++ ds) = trimStart cs ++ ds := by
  simp [trimStart_append, hcs]

/-- Trimming at the end stops inside a text that is not blank, so nothing before it is reached. -/
theorem trimEnd_append_of_not_blank (hds : allBlank ds = false) :
    trimEnd (cs ++ ds) = cs ++ trimEnd ds := by
  simp [trimEnd_append, hds]

/-- Begins and ends with a character that is not white space. -/
def Tight (cs : List Char) : Prop :=
  (∃ first rest, cs = first :: rest ∧ isBlank first = false) ∧
    ∃ rest last, cs = rest ++ [last] ∧ isBlank last = false

theorem Tight.ne_nil (h : Tight cs) : cs ≠ [] := by
  obtain ⟨⟨first, rest, rfl, -⟩, -⟩ := h
  simp

theorem Tight.trimStart_eq (h : Tight cs) : trimStart cs = cs := by
  obtain ⟨⟨first, rest, rfl, hfirst⟩, -⟩ := h
  simp [trimStart, hfirst]

theorem Tight.trimEnd_eq (h : Tight cs) : trimEnd cs = cs := by
  obtain ⟨-, rest, last, rfl, hlast⟩ := h
  simp [trimEnd, hlast]

/-- A text that is not blank starts with a visible character once it is trimmed. -/
theorem exists_trimStart_eq_cons (hcs : allBlank cs = false) :
    ∃ first rest, trimStart cs = first :: rest ∧ isBlank first = false := by
  have hne : trimStart cs ≠ [] := by simp [trimStart_eq_nil_iff, hcs]
  obtain ⟨first, rest, hfirst⟩ := List.exists_cons_of_ne_nil hne
  have hhead : isBlank ((trimStart cs).head hne) = false := List.head_dropWhile_not isBlank hne
  exact ⟨first, rest, hfirst, by simpa only [hfirst, List.head_cons] using hhead⟩

/-- What is left of a text that is not blank has no white space at its ends. -/
theorem tight_trim (hcs : allBlank cs = false) : Tight (trim cs) := by
  obtain ⟨first, rest, hstart, hfirst⟩ := exists_trimStart_eq_cons hcs
  have hreverse : allBlank (trimStart cs).reverse = false := by simp [hcs]
  obtain ⟨last, front, hend, hlast⟩ := exists_trimStart_eq_cons hreverse
  have hsingle : trimEnd [first] = [first] := by simp [trimEnd, hfirst]
  refine ⟨⟨first, trimEnd rest, ?_, hfirst⟩, front.reverse, last, ?_, hlast⟩
  · rw [trim, hstart, ← List.singleton_append, trimEnd_append_of_trimEnd_eq hsingle]
    rfl
  · rw [trim, trimEnd, ← trimStart, hend, List.reverse_cons]

/-- No part at the start of a tight text is blank, however short. -/
theorem Tight.not_blank_of_prefix {front : List Char} (h : Tight cs) (hfront : front <+: cs)
    (hne : front ≠ []) : allBlank front = false := by
  obtain ⟨⟨first, rest, rfl, hfirst⟩, -⟩ := h
  obtain ⟨c, tail, rfl⟩ := List.exists_cons_of_ne_nil hne
  rw [List.cons_prefix_cons] at hfront
  simp [allBlank, hfront.1, hfirst]

/-- No part at the end of a tight text is blank, however short. -/
theorem Tight.not_blank_of_suffix {back : List Char} (h : Tight cs) (hback : back <:+ cs)
    (hne : back ≠ []) : allBlank back = false := by
  obtain ⟨-, rest, last, rfl, hlast⟩ := h
  obtain ⟨front, heq⟩ := hback
  obtain rfl | ⟨tail, c, rfl⟩ := List.eq_nil_or_concat back
  · exact absurd rfl hne
  · rw [List.concat_eq_append, ← List.append_assoc] at heq
    have hc := (List.append_inj' heq rfl).2
    simp only [List.cons.injEq, and_true] at hc
    simp [hc, allBlank, hlast]

end RuleVerify.Text
