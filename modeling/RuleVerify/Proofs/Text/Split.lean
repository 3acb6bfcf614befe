import RuleVerify.Proofs.Text.Blank
import RuleVerify.Text.Split

namespace RuleVerify.Text

variable {d cs : List Char}

/-- A literal search succeeds exactly where the needle is a part of the text. The empty needle is
    part of every text. -/
theorem occursIn_iff {needle : List Char} : occursIn needle cs = true ↔ needle <:+: cs := by
  induction cs with
  | nil => simp [occursIn]
  | cons c cs ih =>
    rw [occursIn, Bool.or_eq_true, ih, List.isPrefixOf_iff_prefix, List.infix_cons_iff]

/-- A cut passes over a character at which the needle does not begin. -/
theorem cutAt?_cons {needle : List Char} {c : Char} (hno : ¬ needle <+: c :: cs) :
    cutAt? needle (c :: cs) = (cutAt? needle cs).map fun (before, rest) => (c :: before, rest) := by
  rw [cutAt?, if_neg (by rwa [List.isPrefixOf_iff_prefix])]

/-- The cut is at the first occurrence. -/
theorem length_le_of_cutAt? {needle before rest before' rest' : List Char}
    (hcut : cutAt? needle cs = some (before, rest)) (heq : cs = before' ++ needle ++ rest') :
    before.length ≤ before'.length := by
  induction cs generalizing before before' with
  | nil =>
    simp only [cutAt?] at hcut
    split at hcut <;> simp_all
  | cons c cs ih =>
    by_cases hprefix : needle <+: c :: cs
    · rw [cutAt?, if_pos (List.isPrefixOf_iff_prefix.mpr hprefix)] at hcut
      simp only [Option.some.injEq, Prod.mk.injEq] at hcut
      simp [← hcut.1]
    · rw [cutAt?_cons hprefix] at hcut
      simp only [Option.map_eq_some_iff, Prod.mk.injEq] at hcut
      obtain ⟨⟨tail, _⟩, hsome, rfl, rfl⟩ := hcut
      cases before' with
      | nil => exact absurd ⟨rest', heq.symm⟩ hprefix
      | cons _ tail' =>
        have hle := ih hsome (List.cons.inj heq).2
        simpa using hle

/-- There is no cut exactly where a needle that is not empty does not occur. -/
theorem cutAt?_eq_none_iff {needle : List Char} (hne : needle ≠ []) :
    cutAt? needle cs = none ↔ ¬ needle <:+: cs := by
  induction cs with
  | nil => simp [cutAt?, hne]
  | cons c cs ih =>
    rw [List.infix_cons_iff, not_or]
    by_cases hprefix : needle <+: c :: cs
    · simp [cutAt?, hprefix]
    · rw [cutAt?_cons hprefix, Option.map_eq_none_iff, ih]
      tauto

/-- What stands before the cut does not hold the text that was looked for. -/
theorem not_infix_of_cutAt? {needle before rest : List Char} (hne : needle ≠ [])
    (hcut : cutAt? needle cs = some (before, rest)) : ¬ needle <:+: before := by
  rintro ⟨front, back, hinside⟩
  have hearlier : cs = front ++ needle ++ (back ++ needle ++ rest) := by
    rw [eq_of_cutAt? hcut, ← hinside]
    simp
  have hle := length_le_of_cutAt? hcut hearlier
  have hlength := congrArg List.length hinside
  have hpositive := List.length_pos_of_ne_nil hne
  simp only [List.length_append] at hlength
  omega

private theorem splitPassing_eq_drop (n : Nat) (cs : List Char) :
    splitPassing d n cs = splitPassing d 0 (cs.drop n) := by
  induction cs generalizing n with
  | nil => simp [splitPassing]
  | cons c cs ih =>
    cases n with
    | zero => rfl
    | succ n => rw [splitPassing, ih, List.drop_succ_cons]

private theorem splitOn_eq_splitPassing (hd : d ≠ []) : splitOn d cs = splitPassing d 0 cs := by
  simp [splitOn, hd]

/-- The empty text is one empty piece. -/
@[simp] theorem splitOn_nil (hd : d ≠ []) : splitOn d [] = [[]] := by
  rw [splitOn_eq_splitPassing hd, splitPassing]

/-- A delimiter at the front is cut off whole, after an empty piece. -/
theorem splitOn_delimiter_append (hd : d ≠ []) (cs : List Char) :
    splitOn d (d ++ cs) = [] :: splitOn d cs := by
  obtain ⟨c, ds, rfl⟩ := List.exists_cons_of_ne_nil hd
  have hprefix : c :: ds <+: c :: (ds ++ cs) := List.prefix_append (c :: ds) cs
  simp only [splitOn_eq_splitPassing hd, List.cons_append]
  rw [splitPassing, if_pos (List.isPrefixOf_iff_prefix.mpr hprefix), splitPassing_eq_drop]
  simp

/-- A character at which no delimiter begins belongs to the first piece. -/
theorem splitOn_cons (hd : d ≠ []) {c : Char} (hno : ¬ d <+: c :: cs) :
    splitOn d (c :: cs) = (splitOn d cs).modifyHead (c :: ·) := by
  simp only [splitOn_eq_splitPassing hd]
  rw [splitPassing, if_neg (by rwa [List.isPrefixOf_iff_prefix])]

/-- Texts as the cutting takes them apart from the left: a delimiter, or a character at which none
    begins. -/
theorem split_induction (hd : d ≠ []) {motive : List Char → Prop} (nil : motive [])
    (delimiter : ∀ cs, motive cs → motive (d ++ cs))
    (char : ∀ c cs, ¬ d <+: c :: cs → motive cs → motive (c :: cs)) (cs : List Char) :
    motive cs := by
  induction hlength : cs.length using Nat.strong_induction_on generalizing cs with
  | _ n ih =>
    cases cs with
    | nil => exact nil
    | cons c cs =>
      by_cases hprefix : d <+: c :: cs
      · obtain ⟨rest, hrest⟩ := hprefix
        have hpositive := List.length_pos_of_ne_nil hd
        have hsplit := congrArg List.length hrest
        rw [List.length_append] at hsplit
        rw [← hrest]
        exact delimiter rest (ih rest.length (by omega) rest rfl)
      · exact char c cs hprefix (ih cs.length (by simp [← hlength]) cs rfl)

theorem splitOn_ne_nil (hd : d ≠ []) (cs : List Char) : splitOn d cs ≠ [] := by
  induction cs using split_induction hd with
  | nil => simp [hd]
  | delimiter cs _ => simp [splitOn_delimiter_append hd]
  | char c cs hno ih =>
    rw [splitOn_cons hd hno]
    simpa using ih

/-- Text in which no delimiter begins is part of the first piece. -/
theorem splitOn_append_of_not_begun (hd : d ≠ []) {head : List Char}
    (hnone : ∀ before after, head ++ cs = before ++ d ++ after → head.length ≤ before.length) :
    splitOn d (head ++ cs) = (splitOn d cs).modifyHead (head ++ ·) := by
  induction head with
  | nil =>
    obtain ⟨piece, pieces, hpieces⟩ := List.exists_cons_of_ne_nil (splitOn_ne_nil hd cs)
    simp [hpieces]
  | cons c head ih =>
    have hno : ¬ d <+: c :: (head ++ cs) := by
      rintro ⟨after, hafter⟩
      have hle := hnone [] after (by simpa using hafter.symm)
      simp at hle
    have hrest : ∀ before after, head ++ cs = before ++ d ++ after →
        head.length ≤ before.length := by
      intro before after heq
      have hle := hnone (c :: before) after (by simp [heq])
      simpa using hle
    rw [List.cons_append, splitOn_cons hd hno, ih hrest, List.modifyHead_modifyHead]
    rfl

/-- A text without the delimiter is one piece. -/
theorem splitOn_eq_singleton (hd : d ≠ []) (hnone : ¬ d <:+: cs) : splitOn d cs = [cs] := by
  have hbegun : ∀ before after, cs ++ [] = before ++ d ++ after → cs.length ≤ before.length := by
    intro before after heq
    exact absurd ⟨before, after, by simpa using heq.symm⟩ hnone
  have happend := splitOn_append_of_not_begun hd hbegun
  simpa [hd] using happend

/-- Text at the end into which no delimiter reaches is part of the last piece. -/
theorem splitOn_append_of_not_ended (hd : d ≠ []) {tail : List Char}
    (hnone : ∀ before after, cs ++ tail = before ++ d ++ after → tail.length ≤ after.length) :
    ∃ pieces last, splitOn d cs = pieces ++ [last] ∧
      splitOn d (cs ++ tail) = pieces ++ [last ++ tail] := by
  induction cs using split_induction hd with
  | nil =>
    have hno : ¬ d <:+: tail := by
      rintro ⟨before, after, heq⟩
      have hle := hnone before after (by simpa using heq.symm)
      have hlength := congrArg List.length heq
      have hpositive := List.length_pos_of_ne_nil hd
      simp only [List.length_append] at hlength
      omega
    exact ⟨[], [], by simp [hd], by simpa using splitOn_eq_singleton hd hno⟩
  | delimiter cs ih =>
    obtain ⟨pieces, last, hcs, happend⟩ := ih (by
      intro before after heq
      exact hnone (d ++ before) after (by simp [heq]))
    refine ⟨[] :: pieces, last, ?_, ?_⟩
    · rw [splitOn_delimiter_append hd, hcs, List.cons_append]
    · rw [List.append_assoc, splitOn_delimiter_append hd, happend, List.cons_append]
  | char c cs hno ih =>
    obtain ⟨pieces, last, hcs, happend⟩ := ih (by
      intro before after heq
      exact hnone (c :: before) after (by simp [heq]))
    have hno' : ¬ d <+: c :: (cs ++ tail) := by
      rintro ⟨after, heq⟩
      have hle := hnone [] after (by simpa using heq.symm)
      have hlength := congrArg List.length heq
      simp only [List.length_append, List.length_cons] at hlength
      apply hno
      apply List.prefix_of_prefix_length_le ⟨after, heq⟩ (List.prefix_append (c :: cs) tail)
      simp only [List.length_cons]
      omega
    rw [List.cons_append, splitOn_cons hd hno, splitOn_cons hd hno', hcs, happend]
    cases pieces with
    | nil => exact ⟨[], c :: last, by simp, by simp⟩
    | cons piece pieces => exact ⟨(c :: piece) :: pieces, last, by simp, by simp⟩

/-- When the delimiter follows the text, no occurrence begins in the text and ends behind it. -/
def JoinsCleanly (d left : List Char) : Prop :=
  ∀ before after, left ++ d = before ++ d ++ after →
    before.length < left.length → before.length + d.length ≤ left.length

/-- Only the places of the text need to be tried. -/
theorem joinsCleanly_iff {left : List Char} : JoinsCleanly d left ↔
    ∀ i < left.length, d <+: (left ++ d).drop i → i + d.length ≤ left.length := by
  constructor
  · rintro h i hi ⟨after, hafter⟩
    have hlength : ((left ++ d).take i).length = i := by
      rw [List.length_take, List.length_append]
      omega
    have hle := h ((left ++ d).take i) after
      (by rw [List.append_assoc, hafter, List.take_append_drop]) (by omega)
    omega
  · intro h before after heq hlt
    apply h before.length hlt
    rw [heq, List.append_assoc, List.drop_left]
    exact List.prefix_append d after

instance {left : List Char} : Decidable (JoinsCleanly d left) :=
  decidable_of_iff' _ joinsCleanly_iff

/-- A delimiter between two texts is cut at if no other occurrence reaches from the first text into
    it: the pieces are those of the two texts. -/
theorem splitOn_append_delimiter (hd : d ≠ []) {left : List Char} (hnone : JoinsCleanly d left)
    (right : List Char) :
    splitOn d (left ++ d ++ right) = splitOn d left ++ splitOn d right := by
  induction left using split_induction hd with
  | nil => simp [splitOn_delimiter_append hd, hd]
  | delimiter left ih =>
    have hrest := ih (by
      intro before after heq hlt
      have hle := hnone (d ++ before) after (by simp [heq]) (by simpa using hlt)
      simp only [List.length_append] at hle
      omega)
    rw [splitOn_delimiter_append hd, List.append_assoc, List.append_assoc,
      splitOn_delimiter_append hd, ← List.append_assoc, hrest, List.cons_append]
  | char c left hno ih =>
    have hrest := ih (by
      intro before after heq hlt
      have hle := hnone (c :: before) after (by simp [heq]) (by simpa using hlt)
      simp only [List.length_cons] at hle
      omega)
    -- A delimiter that begins here would fit into the text before the joint.
    have hno' : ¬ d <+: c :: (left ++ d ++ right) := by
      intro hprefix
      have hjoint : d <+: c :: left ++ d := by
        apply List.prefix_of_prefix_length_le hprefix
        · exact List.prefix_append (c :: left ++ d) right
        · simp only [List.length_append, List.length_cons]
          omega
      obtain ⟨after, heq⟩ := hjoint
      have hle := hnone [] after (by simpa using heq.symm) (by simp)
      apply hno
      exact List.prefix_of_prefix_length_le ⟨after, heq⟩ (List.prefix_append (c :: left) d)
        (by simpa using hle)
    obtain ⟨piece, pieces, hpieces⟩ := List.exists_cons_of_ne_nil (splitOn_ne_nil hd left)
    rw [List.cons_append, List.cons_append, splitOn_cons hd hno', splitOn_cons hd hno, hrest,
      hpieces]
    rfl

end RuleVerify.Text
