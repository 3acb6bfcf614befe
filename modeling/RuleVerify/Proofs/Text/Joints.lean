import RuleVerify.Proofs.Text.Split

namespace RuleVerify.Text

variable {d cs : List Char} {pieces : List (List Char)}

private theorem intercalate_append {left right : List (List Char)} (hleft : left ≠ [])
    (hright : right ≠ []) :
    List.intercalate d (left ++ right) =
      List.intercalate d left ++ d ++ List.intercalate d right := by
  induction left with
  | nil => exact absurd rfl hleft
  | cons piece left ih =>
    by_cases hnil : left = []
    · subst hnil
      rw [List.singleton_append, List.intercalate_cons_of_ne_nil hright, List.intercalate_singleton]
    · rw [List.cons_append, List.intercalate_cons_of_ne_nil (by simp [hnil]), ih hnil,
        List.intercalate_cons_of_ne_nil hnil]
      simp

/-- One piece that is not blank keeps the whole from being blank. -/
theorem allBlank_intercalate_of_mem {piece : List Char} (hmem : piece ∈ pieces)
    (hpiece : allBlank piece = false) : allBlank (List.intercalate d pieces) = false := by
  obtain ⟨left, right, rfl⟩ := List.append_of_mem hmem
  have hright : allBlank (List.intercalate d (piece :: right)) = false := by
    by_cases hnil : right = []
    · simpa [hnil] using hpiece
    · simp [List.intercalate_cons_of_ne_nil hnil, hpiece]
  by_cases hnil : left = []
  · simpa [hnil] using hright
  · simp [intercalate_append hnil, hright]

/-- The pieces of a text make up the text again. -/
theorem intercalate_splitOn (hd : d ≠ []) (cs : List Char) :
    List.intercalate d (splitOn d cs) = cs := by
  induction cs using split_induction hd with
  | nil => simp [hd]
  | delimiter cs ih =>
    rw [splitOn_delimiter_append hd, List.intercalate_cons_of_ne_nil (splitOn_ne_nil hd cs), ih,
      List.nil_append]
  | char c cs hno ih =>
    obtain ⟨piece, pieces, hpieces⟩ := List.exists_cons_of_ne_nil (splitOn_ne_nil hd cs)
    rw [splitOn_cons hd hno, hpieces, List.modifyHead_cons]
    rw [hpieces] at ih
    by_cases hnil : pieces = []
    · simpa [hnil] using ih
    · rw [List.intercalate_cons_of_ne_nil hnil] at ih ⊢
      rw [List.cons_append, List.cons_append, ih]

/-- A delimiter with white space at an end leaves something of a text that is trimmed: of the first
    or of the last piece, for a blank one would join that white space to the end of the text. -/
theorem exists_not_blank_splitOn
    (hedge : d.head?.any isBlank = true ∨ d.getLast?.any isBlank = true) (hcs : Tight cs) :
    ∃ piece ∈ splitOn d cs, allBlank piece = false := by
  have hd : d ≠ [] := by
    rintro rfl
    simp at hedge
  have hjoin := intercalate_splitOn hd cs
  have hwhole : allBlank cs = false := hcs.not_blank_of_prefix (List.prefix_refl cs) hcs.ne_nil
  obtain hhead | hlast := hedge
  · obtain ⟨first, pieces, hpieces⟩ := List.exists_cons_of_ne_nil (splitOn_ne_nil hd cs)
    refine ⟨first, by simp [hpieces], ?_⟩
    rw [hpieces] at hjoin
    by_cases hnil : pieces = []
    · rw [hnil, List.intercalate_singleton] at hjoin
      rw [hjoin, hwhole]
    · obtain ⟨c, ds, rfl⟩ := List.exists_cons_of_ne_nil hd
      have hblank : isBlank c = true := by simpa using hhead
      have hfront : first ++ [c] <+: cs := by
        rw [← hjoin, List.intercalate_cons_of_ne_nil hnil]
        exact ⟨ds ++ List.intercalate (c :: ds) pieces, by simp⟩
      have hnot := hcs.not_blank_of_prefix hfront (by simp)
      simpa [allBlank, hblank] using hnot
  · obtain hnone | ⟨pieces, last, hpieces⟩ := List.eq_nil_or_concat (splitOn d cs)
    · exact absurd hnone (splitOn_ne_nil hd cs)
    rw [List.concat_eq_append] at hpieces
    refine ⟨last, by simp [hpieces], ?_⟩
    rw [hpieces] at hjoin
    by_cases hnil : pieces = []
    · rw [hnil, List.nil_append, List.intercalate_singleton] at hjoin
      rw [hjoin, hwhole]
    · obtain rfl | ⟨ds, c, rfl⟩ := List.eq_nil_or_concat d
      · exact absurd rfl hd
      rw [List.concat_eq_append] at hjoin hlast
      have hblank : isBlank c = true := by simpa using hlast
      have hback : [c] ++ last <:+ cs := by
        rw [← hjoin, intercalate_append hnil (by simp), List.intercalate_singleton]
        exact ⟨List.intercalate (ds ++ [c]) pieces ++ ds, by simp⟩
      have hnot := hcs.not_blank_of_suffix hback (by simp)
      simpa [allBlank, hblank] using hnot

/-- Wherever the delimiter occurs in the joined pieces, it is one that joins them. -/
def OnlyAtJoints (d : List Char) (pieces : List (List Char)) : Prop :=
  ∀ before after, List.intercalate d pieces = before ++ d ++ after →
    ∃ left right, left ≠ [] ∧ right ≠ [] ∧ pieces = left ++ right ∧
      before = List.intercalate d left

/-- Only the places of the text and the numbers of pieces need to be tried. -/
theorem onlyAtJoints_iff : OnlyAtJoints d pieces ↔
    ∀ i < (List.intercalate d pieces).length + 1, d <+: (List.intercalate d pieces).drop i →
      ∃ k < pieces.length, 0 < k ∧
        (List.intercalate d pieces).take i = List.intercalate d (pieces.take k) := by
  constructor
  · rintro h i - ⟨after, hafter⟩
    have heq : List.intercalate d pieces = (List.intercalate d pieces).take i ++ d ++ after := by
      rw [List.append_assoc, hafter, List.take_append_drop]
    obtain ⟨left, right, hleft, hright, hsplit, hbefore⟩ := h _ _ heq
    have hpositive := List.length_pos_of_ne_nil hleft
    have hrest := List.length_pos_of_ne_nil hright
    refine ⟨left.length, by simp [hsplit, hrest], hpositive, ?_⟩
    rw [hbefore, hsplit, List.take_left]
  · intro h before after heq
    have hdrop : (List.intercalate d pieces).drop before.length = d ++ after := by simp [heq]
    have hlt : before.length < (List.intercalate d pieces).length + 1 := by
      rw [heq, List.length_append, List.length_append]
      omega
    obtain ⟨k, hk, hpositive, htake⟩ :=
      h before.length hlt (hdrop ▸ List.prefix_append d after)
    refine ⟨pieces.take k, pieces.drop k, ?_, ?_, (List.take_append_drop k pieces).symm, ?_⟩
    · rw [← List.length_pos_iff, List.length_take]
      omega
    · rw [← List.length_pos_iff, List.length_drop]
      omega
    · rw [← htake, heq, List.append_assoc, List.take_left]

instance : Decidable (OnlyAtJoints d pieces) := decidable_of_iff' _ onlyAtJoints_iff

/-- What stands behind a joint is the rest of the pieces. -/
theorem OnlyAtJoints.split {before after : List Char} (h : OnlyAtJoints d pieces)
    (heq : List.intercalate d pieces = before ++ d ++ after) :
    ∃ left right, left ≠ [] ∧ right ≠ [] ∧ pieces = left ++ right ∧
      before = List.intercalate d left ∧ after = List.intercalate d right := by
  obtain ⟨left, right, hleft, hright, rfl, rfl⟩ := h before after heq
  refine ⟨left, right, hleft, hright, rfl, rfl, ?_⟩
  rw [intercalate_append hleft hright] at heq
  exact (List.append_cancel_left heq).symm

/-- No delimiter begins inside the first piece. -/
theorem OnlyAtJoints.length_le {piece before after : List Char}
    (h : OnlyAtJoints d (piece :: pieces))
    (heq : List.intercalate d (piece :: pieces) = before ++ d ++ after) :
    piece.length ≤ before.length := by
  obtain ⟨left, right, hleft, hright, hpieces, rfl⟩ := h before after heq
  cases left with
  | nil => exact absurd rfl hleft
  | cons first left =>
    obtain ⟨rfl, rfl⟩ := List.cons.inj hpieces
    by_cases hnil : left = []
    · simp [hnil]
    · simp [List.intercalate_cons_of_ne_nil hnil]

/-- Without its first piece a row still holds the delimiter at its joints only. A row of one piece
    has no joint to lose. -/
theorem OnlyAtJoints.tail {piece : List Char} (hd : d ≠ []) (hpieces : pieces ≠ [])
    (h : OnlyAtJoints d (piece :: pieces)) : OnlyAtJoints d pieces := by
  intro before after heq
  have hwhole : List.intercalate d (piece :: pieces) = (piece ++ d ++ before) ++ d ++ after := by
    simp [List.intercalate_cons_of_ne_nil hpieces, heq]
  obtain ⟨left, right, hleft, hright, hsplit, hbefore⟩ := h _ _ hwhole
  cases left with
  | nil => exact absurd rfl hleft
  | cons first left =>
    obtain ⟨rfl, rfl⟩ := List.cons.inj hsplit
    have hnil : left ≠ [] := by
      rintro rfl
      simp [hd] at hbefore
    rw [List.intercalate_cons_of_ne_nil hnil] at hbefore
    exact ⟨left, right, hnil, hright, rfl, List.append_cancel_left hbefore⟩

/-- Joined pieces are found again when the delimiter occurs only where they meet. -/
theorem splitOn_intercalate (hd : d ≠ []) (hpieces : pieces ≠ []) (h : OnlyAtJoints d pieces) :
    splitOn d (List.intercalate d pieces) = pieces := by
  induction pieces with
  | nil => exact absurd rfl hpieces
  | cons piece pieces ih =>
    have hpositive := List.length_pos_of_ne_nil hd
    have hpiece : splitOn d piece = [piece] := by
      apply splitOn_eq_singleton hd
      rintro ⟨before, after, hocc⟩
      obtain ⟨behind, hbehind⟩ : piece <+: List.intercalate d (piece :: pieces) := by
        by_cases hnil : pieces = []
        · simp [hnil]
        · simp [List.intercalate_cons_of_ne_nil hnil]
      have hwhole : List.intercalate d (piece :: pieces) = before ++ d ++ (after ++ behind) := by
        rw [← hbehind, ← hocc]
        simp
      have hle := h.length_le hwhole
      have hlength := congrArg List.length hocc
      simp only [List.length_append] at hlength
      omega
    by_cases hnil : pieces = []
    · simpa [hnil] using hpiece
    · rw [List.intercalate_cons_of_ne_nil hnil, splitOn_append_delimiter hd, hpiece,
        ih hnil (h.tail hd hnil), List.singleton_append]
      intro before after heq hlt
      have hwhole : List.intercalate d (piece :: pieces) =
          before ++ d ++ (after ++ List.intercalate d pieces) := by
        rw [List.intercalate_cons_of_ne_nil hnil, heq]
        simp
      have hle := h.length_le hwhole
      omega

/-- Every piece but the first brings the delimiter in front of it along. -/
theorem intercalate_cons (d piece : List Char) (pieces : List (List Char)) :
    List.intercalate d (piece :: pieces) = piece ++ pieces.flatMap (d ++ ·) := by
  induction pieces generalizing piece with
  | nil => simp
  | cons next pieces ih =>
    rw [List.intercalate_cons_of_ne_nil (List.cons_ne_nil next pieces), ih, List.flatMap_cons]
    simp

/-- Joined pieces are found again also when none holds the character that the delimiter begins
    with, whatever else of it they hold. -/
theorem splitOn_intercalate_of_not_mem {c : Char} {ds : List Char} (hpieces : pieces ≠ [])
    (hno : ∀ piece ∈ pieces, c ∉ piece) :
    splitOn (c :: ds) (List.intercalate (c :: ds) pieces) = pieces := by
  have hd : c :: ds ≠ [] := List.cons_ne_nil c ds
  induction pieces with
  | nil => exact absurd rfl hpieces
  | cons piece pieces ih =>
    simp only [List.mem_cons, forall_eq_or_imp] at hno
    by_cases hnil : pieces = []
    · rw [hnil, List.intercalate_singleton]
      apply splitOn_eq_singleton hd
      intro hinside
      exact hno.1 (hinside.subset List.mem_cons_self)
    · rw [List.intercalate_cons_of_ne_nil hnil, List.append_assoc, splitOn_append_of_not_begun hd,
        splitOn_delimiter_append hd, ih hnil hno.2]
      · simp
      · intro before after heq
        rw [List.append_assoc] at heq
        obtain ⟨middle, rfl, -⟩ | ⟨middle, rfl, hafter⟩ := List.append_eq_append_iff.mp heq
        · simp
        · -- What is left of the piece behind a delimiter's beginning would hold that character.
          cases middle with
          | nil => simp
          | cons d middle =>
            rw [List.cons_append, List.cons_append, List.cons.injEq] at hafter
            exact absurd (by simp [hafter.1]) hno.1

/-- Trimming the start of a text before it is cut changes only the white space around the pieces,
    as long as no delimiter lies in the part that is trimmed away. -/
theorem map_trim_splitOn_trimStart (hd : d ≠ [])
    (hstart : ∀ before after, cs = before ++ d ++ after →
      trimStart (before ++ d) = trimStart before ++ d) :
    (splitOn d (trimStart cs)).map trim = (splitOn d cs).map trim := by
  obtain ⟨front, hfront, hcs⟩ := exists_trimStart cs
  have hsplit : splitOn d (front ++ trimStart cs) =
      (splitOn d (trimStart cs)).modifyHead (front ++ ·) := by
    apply splitOn_append_of_not_begun hd
    intro before after heq
    rw [← hcs] at heq
    have hblank : allBlank (before ++ d) = false := by
      rw [← Bool.not_eq_true, ← trimStart_eq_nil_iff, hstart before after heq]
      simp [hd]
    have htrim : trimStart cs = trimStart before ++ d ++ after := by
      rw [heq, trimStart_append_of_not_blank hblank, hstart before after heq]
    have hwhole := congrArg List.length (heq.symm.trans hcs)
    have hrest := congrArg List.length htrim
    simp only [List.length_append] at hwhole hrest
    omega
  obtain ⟨piece, pieces, hpieces⟩ := List.exists_cons_of_ne_nil (splitOn_ne_nil hd (trimStart cs))
  conv_rhs => rw [hcs, hsplit, hpieces]
  rw [hpieces, List.modifyHead_cons, List.map_cons, List.map_cons,
    trim_append_of_blank_left hfront]

private theorem map_trim_splitOn_trimEnd (hd : d ≠ [])
    (hend : ∀ before after, cs = before ++ d ++ after →
      trimEnd (d ++ after) = d ++ trimEnd after) :
    (splitOn d (trimEnd cs)).map trim = (splitOn d cs).map trim := by
  obtain ⟨back, hback, hcs⟩ := exists_trimEnd cs
  have hended : ∀ before after, trimEnd cs ++ back = before ++ d ++ after →
      back.length ≤ after.length := by
    intro before after heq
    rw [← hcs] at heq
    have hblank : allBlank (d ++ after) = false := by
      rw [← Bool.not_eq_true, ← trimEnd_eq_nil_iff, hend before after heq]
      simp [hd]
    have htrim : trimEnd cs = before ++ (d ++ trimEnd after) := by
      rw [heq, List.append_assoc, trimEnd_append_of_not_blank hblank, hend before after heq]
    have hlength := congrArg List.length (heq.symm.trans hcs)
    have hrest := congrArg List.length htrim
    simp only [List.length_append] at hlength hrest
    omega
  obtain ⟨pieces, last, htrimmed, hwhole⟩ := splitOn_append_of_not_ended hd hended
  rw [← hcs] at hwhole
  rw [htrimmed, hwhole, List.map_append, List.map_append, List.map_singleton, List.map_singleton,
    trim_append_of_blank_right hback]

/-- Trimming the whole first changes the pieces only in the white space around them, provided that
    it never cuts into a delimiter. -/
theorem map_trim_splitOn_trim (hd : d ≠ [])
    (hstart : ∀ before after, cs = before ++ d ++ after →
      trimStart (before ++ d) = trimStart before ++ d)
    (hend : ∀ before after, cs = before ++ d ++ after →
      trimEnd (d ++ after) = d ++ trimEnd after) :
    (splitOn d (trim cs)).map trim = (splitOn d cs).map trim := by
  rw [trim, map_trim_splitOn_trimEnd hd, map_trim_splitOn_trimStart hd hstart]
  intro before after heq
  obtain ⟨front, _, hcs⟩ := exists_trimStart cs
  exact hend (front ++ before) after (by rw [hcs, heq]; simp)

/-- Joined pieces of which the outermost are not blank keep all joints when the whole is trimmed. -/
theorem map_trim_splitOn_trim_intercalate (hd : d ≠ []) (hpieces : pieces ≠ [])
    (h : OnlyAtJoints d pieces) (hhead : allBlank (pieces.head hpieces) = false)
    (hlast : allBlank (pieces.getLast hpieces) = false) :
    (splitOn d (trim (List.intercalate d pieces))).map trim = pieces.map trim := by
  rw [map_trim_splitOn_trim hd, splitOn_intercalate hd hpieces h]
  · intro before after heq
    obtain ⟨left, right, hleft, -, rfl, rfl, -⟩ := h.split heq
    apply trimStart_append_of_not_blank
    rw [List.head_append_of_ne_nil hleft] at hhead
    exact allBlank_intercalate_of_mem (List.head_mem hleft) hhead
  · intro before after heq
    obtain ⟨left, right, -, hright, rfl, -, rfl⟩ := h.split heq
    apply trimEnd_append_of_not_blank
    rw [List.getLast_append_of_ne_nil _ hright] at hlast
    exact allBlank_intercalate_of_mem (List.getLast_mem hright) hlast

end RuleVerify.Text
