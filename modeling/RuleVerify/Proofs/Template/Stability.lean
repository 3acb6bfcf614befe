import RuleVerify.Proofs.Template.Embedding

namespace RuleVerify

/-- Every value leaves some text in canonical spacing, and none of an opening. -/
def Values.Inert (values : Values) : Prop :=
  ∀ entry ∈ values.entries, Text.normalizeSpace entry.2.toList ≠ [] ∧
    '$' ∉ Text.normalizeSpace entry.2.toList ∧ '\x7b' ∉ Text.normalizeSpace entry.2.toList

instance (values : Values) : Decidable values.Inert :=
  inferInstanceAs (Decidable (∀ entry ∈ values.entries, _))

private theorem Values.Inert.of_get? {values : Values} {name value : String} (h : values.Inert)
    (hget : values.get? name = some value) :
    Text.normalizeSpace value.toList ≠ [] ∧ '$' ∉ Text.normalizeSpace value.toList ∧
      '\x7b' ∉ Text.normalizeSpace value.toList := by
  obtain ⟨before, after, hentries, -⟩ := List.lookup_eq_some_iff.mp hget
  exact h (name, value) (by simp [hentries])

namespace Template

variable {values : Values} {before value cs : List Char} {s : Segments}

/-- Text that holds no character of an opening closes the literal text in front of it, whatever that
    ends in. -/
theorem opensNothing_append (hbefore : ¬ opening <:+: before) (hvalue : value ≠ [])
    (hdollar : '$' ∉ value) (hbrace : '\x7b' ∉ value) : OpensNothing (before ++ value) := by
  constructor
  · induction before with
    | nil => exact (opensNothing_of_not_mem hdollar).not_inside
    | cons c before ih =>
      rw [List.infix_cons_iff, not_or] at hbefore
      rw [List.cons_append, List.infix_cons_iff, not_or]
      refine ⟨?_, ih hbefore.2⟩
      cases before with
      | nil =>
        obtain ⟨d, value, rfl⟩ := List.exists_cons_of_ne_nil hvalue
        have hd : d ≠ '\x7b' := by
          rintro rfl
          exact hbrace List.mem_cons_self
        simp [opening, hd.symm]
      | cons b before => simpa [opening] using hbefore.1
  · intro hsuffix
    obtain hlonger | hshorter :=
      List.suffix_or_suffix_of_suffix hsuffix (List.suffix_append before value)
    · exact hdollar (hlonger.subset List.mem_cons_self)
    · obtain ⟨d, value, rfl⟩ := List.exists_cons_of_ne_nil hvalue
      have hd : d = '$' := by simpa using hshorter.subset List.mem_cons_self
      exact hdollar (by simp [hd])

namespace Segments

/-- A placeholder that has a value becomes part of the literal text behind it. -/
def settleHole (values : Values) (hole : Hole) (s : Segments) : Segments :=
  match values.get? (String.ofList hole.name) with
  | some value => s.embed (hole.before ++ Text.normalizeSpace value.toList) []
  | none => s.consHole hole

/-- The segments of the text in which all placeholders that have a value are filled. -/
def settle (values : Values) (s : Segments) : Segments :=
  s.holes.foldr (settleHole values) ⟨[], s.tail⟩

private theorem settle_consHole (values : Values) (hole : Hole) (s : Segments) :
    (s.consHole hole).settle values = (s.settle values).settleHole values hole :=
  rfl

private theorem map_name_embed (front back : List Char) (s : Segments) :
    (s.embed front back).holes.map Hole.name = s.holes.map Hole.name := by
  obtain ⟨holes, tail⟩ := s
  cases holes <;> rfl

/-- The placeholders that are left have no value. -/
theorem get?_eq_none_of_mem_settle {name : List Char}
    (hmem : name ∈ (s.settle values).holes.map Hole.name) :
    values.get? (String.ofList name) = none := by
  induction s using hole_induction with
  | tail cs => cases hmem
  | hole hole s ih =>
    rw [settle_consHole, settleHole] at hmem
    cases hget : values.get? (String.ofList hole.name) with
    | none =>
      simp only [hget, consHole, List.map_cons, List.mem_cons] at hmem
      obtain rfl | hrest := hmem
      · exact hget
      · exact ih hrest
    | some value =>
      simp only [hget, map_name_embed] at hmem
      exact ih hmem

/-- After a substitution the placeholders without a value are the only ones left. No seam makes
    another, because values neither vanish nor hold a character of an opening. -/
theorem Reads.settle (h : s.Reads cs) (hvalues : values.Inert) :
    (s.settle values).Reads (s.write (fill values)) := by
  induction s using hole_induction generalizing cs with
  | tail rest => exact reads_nil h.tail
  | hole hole s ih =>
    obtain ⟨hbefore, hname, rest, -, hrest⟩ := reads_consHole_iff.mp h
    have hsettled := ih hrest
    rw [settle_consHole, write_consHole, settleHole, fill]
    cases hget : values.get? (String.ofList hole.name) with
    | none => exact reads_consHole_iff.mpr ⟨hbefore, hname, _, rfl, hsettled⟩
    | some value =>
      obtain ⟨hne, hdollar, hbrace⟩ := hvalues.of_get? hget
      have hfront := opensNothing_append hbefore hne hdollar hbrace
      simpa using hsettled.embed hfront (List.not_mem_nil (a := '\x7d'))

end Segments

/-- Where values are inert, what comes out of a substitution is left as it is by the next one, also
    with placeholders of unknown or empty names and with one that is never closed. Values may hold
    closing braces: every opening in front of a value has been closed already. -/
theorem substitute_substitute {values : Values} (hvalues : values.Inert) (expression : String) :
    substitute values (substitute values expression) = substitute values expression := by
  have hreads := (reads_segments expression.toList).settle hvalues
  have hunfilled : ((segments expression.toList).settle values).write (fill values) =
      ((segments expression.toList).settle values).write placeholder := by
    apply Segments.write_congr
    intro hole hmem
    rw [fill, Segments.get?_eq_none_of_mem_settle (List.mem_map_of_mem hmem)]
  calc
    substitute values (substitute values expression)
    _ = String.ofList ((segments ((segments expression.toList).write (fill values))).write
          (fill values)) := by
      rw [substitute_eq values (substitute values expression), substitute_eq values expression,
        String.toList_ofList]
    _ = String.ofList (((segments expression.toList).settle values).write placeholder) := by
      rw [← hreads.eq_segments, hunfilled]
    _ = substitute values expression := by rw [hreads.write_eq, substitute_eq]

/-- A dollar sign in front of a filled placeholder and a brace behind it stay apart; `c` and the
    empty name are unknown, an opening stands in a name, and the last placeholder is not closed. -/
theorem substitute_substitute_seams :
    let values := Values.ofList [("a", " x\n\ty "), ("b", "1\x7d")]
    let unknown := "$\x7bc\x7d$\x7b\x7d$\x7ba$\x7bb\x7d"
    let expression := "$$\x7ba\x7d\x7bb\x7d" ++ unknown ++ "$\x7bb\x7d $\x7bb"
    values.Inert ∧
      substitute values expression = "$x y\x7bb\x7d" ++ unknown ++ "1\x7d $\x7bb" ∧
      substitute values (substitute values expression) = substitute values expression := by
  intro values unknown expression
  have hinert : values.Inert := by decide +kernel
  exact ⟨hinert, by decide +kernel, substitute_substitute hinert expression⟩

/-- A value that vanishes lets what stood around it make a placeholder. -/
example :
    let values := Values.ofList [("a", " "), ("b", "1")]
    substitute values "$$\x7ba\x7d\x7bb\x7d" = "$\x7bb\x7d" ∧
      substitute values "$\x7bb\x7d" = "1" := by
  decide +kernel

end Template

end RuleVerify
