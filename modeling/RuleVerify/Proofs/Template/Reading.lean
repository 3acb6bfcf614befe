import Mathlib.Data.List.Infix
import RuleVerify.Proofs.Text.Blank
import RuleVerify.Proofs.Text.Split
import RuleVerify.Template

namespace RuleVerify.Template

/-- Placeholders, each with the literal text before it, and the literal text behind the last. -/
structure Segments where
  holes : List Hole
  tail : List Char
deriving DecidableEq, Repr

namespace Segments

/-- The text with `f name` in the place of every placeholder. -/
def write (f : List Char → List Char) (s : Segments) : List Char :=
  s.holes.flatMap (fun hole => hole.before ++ f hole.name) ++ s.tail

/-- Only the names of a reading count for what is written in their places. -/
theorem write_congr {f g : List Char → List Char} {s : Segments}
    (hnames : ∀ hole ∈ s.holes, f hole.name = g hole.name) : s.write f = s.write g := by
  rw [write, write]
  congr 1
  apply List.flatMap_congr
  intro hole hmem
  rw [hnames hole hmem]

/-- The names that are not empty, in order of appearance. -/
def names (s : Segments) : List (List Char) := (s.holes.map Hole.name).filter (!·.isEmpty)

def consHole (hole : Hole) (s : Segments) : Segments := ⟨hole :: s.holes, s.tail⟩

/-- Segments as they are built from the last placeholder to the first. -/
theorem hole_induction {motive : Segments → Prop} (tail : ∀ cs, motive ⟨[], cs⟩)
    (hole : ∀ hole s, motive s → motive (s.consHole hole)) (s : Segments) : motive s := by
  obtain ⟨holes, cs⟩ := s
  induction holes with
  | nil => exact tail cs
  | cons first holes ih => exact hole first ⟨holes, cs⟩ ih

/-- A placeholder is written between what stands before it and the rest. -/
@[simp] theorem write_consHole (f : List Char → List Char) (hole : Hole) (s : Segments) :
    (s.consHole hole).write f = hole.before ++ f hole.name ++ s.write f := by
  simp [write, consHole]

private theorem names_consHole (hole : Hole) (s : Segments) :
    (s.consHole hole).names = if hole.name.isEmpty then s.names else hole.name :: s.names := by
  cases hempty : hole.name.isEmpty <;> simp [names, consHole, hempty]

end Segments

/-- Somewhere a placeholder is opened and, at any distance, closed. -/
def HasPlaceholder (cs : List Char) : Prop :=
  ∃ before after, cs = before ++ opening ++ after ∧ '\x7d' ∈ after

/-- The text is read as these segments: no opening is left in the literal parts before
    placeholders, names end at the first closing brace, and the rest has no placeholder. -/
structure Segments.Reads (s : Segments) (cs : List Char) : Prop where
  write_eq : s.write placeholder = cs
  before : ∀ hole ∈ s.holes, ¬ opening <:+: hole.before
  name : ∀ hole ∈ s.holes, '\x7d' ∉ hole.name
  tail : ¬ HasPlaceholder s.tail

private theorem cutAt?_closing_eq_none_iff {cs : List Char} :
    Text.cutAt? closing cs = none ↔ '\x7d' ∉ cs := by
  rw [Text.cutAt?_eq_none_iff (by simp [closing]), closing, List.singleton_infix_iff]

private theorem cutAt?_closing {name : List Char} (hname : '\x7d' ∉ name) (rest : List Char) :
    Text.cutAt? closing (name ++ closing ++ rest) = some (name, rest) := by
  induction name with
  | nil => simp [Text.cutAt?, closing]
  | cons c name ih =>
    simp only [List.mem_cons, not_or] at hname
    rw [List.cons_append, List.cons_append, Text.cutAt?_cons, ih hname.2]
    · rfl
    · simp [closing, hname.1]

/-- A dollar sign at the end of the literal text does not take part in the opening behind it. -/
theorem cutAt?_opening {before : List Char} (hbefore : ¬ opening <:+: before) (rest : List Char) :
    Text.cutAt? opening (before ++ opening ++ rest) = some (before, rest) := by
  induction before with
  | nil => simp [Text.cutAt?, opening]
  | cons c before ih =>
    rw [List.infix_cons_iff, not_or] at hbefore
    have hno : ¬ opening <+: c :: (before ++ opening ++ rest) := by
      cases before with
      | nil => simp [opening]
      | cons b before => simpa [opening] using hbefore.1
    rw [List.cons_append, List.cons_append, Text.cutAt?_cons hno, ih hbefore.2]
    rfl

/-- The scan finds the first opening that is closed later, and the name ends at the first closing
    brace. -/
theorem nextHole?_eq_some_iff {cs rest : List Char} {hole : Hole} :
    nextHole? cs = some (hole, rest) ↔
      cs = hole.before ++ placeholder hole.name ++ rest ∧ ¬ opening <:+: hole.before ∧
        '\x7d' ∉ hole.name := by
  constructor
  · intro hnext
    refine ⟨eq_of_nextHole? hnext, ?_⟩
    unfold nextHole? at hnext
    split at hnext
    · simp at hnext
    · rename_i before opened hopening
      split at hnext
      · simp at hnext
      · rename_i name rest' hclosing
        simp only [Option.some.injEq, Prod.mk.injEq] at hnext
        obtain ⟨rfl, rfl⟩ := hnext
        have hname := Text.not_infix_of_cutAt? (by simp [closing]) hclosing
        rw [closing, List.singleton_infix_iff] at hname
        exact ⟨Text.not_infix_of_cutAt? (by simp [opening]) hopening, hname⟩
  · rintro ⟨rfl, hbefore, hname⟩
    have htext : hole.before ++ placeholder hole.name ++ rest =
        hole.before ++ opening ++ (hole.name ++ closing ++ rest) := by simp [placeholder]
    rw [nextHole?, htext, cutAt?_opening hbefore]
    simp only [cutAt?_closing hname]

/-- The scan finds nothing exactly where no opening is closed later. -/
theorem nextHole?_eq_none_iff {cs : List Char} : nextHole? cs = none ↔ ¬ HasPlaceholder cs := by
  constructor
  · rintro hnext ⟨before', after', rfl, hmem⟩
    unfold nextHole? at hnext
    split at hnext
    · rename_i hopening
      rw [Text.cutAt?_eq_none_iff (by simp [opening])] at hopening
      exact hopening ⟨before', after', rfl⟩
    · rename_i before opened hopening
      split at hnext
      · -- The first opening is at most as far as any other, so the brace stands behind it.
        rename_i hclosing
        rw [cutAt?_closing_eq_none_iff] at hclosing
        have hle := Text.length_le_of_cutAt? hopening rfl
        have heq := Text.eq_of_cutAt? hopening
        have hlength := congrArg List.length heq
        simp only [List.length_append] at hlength
        have hlater : after' <:+ before' ++ opening ++ after' := List.suffix_append _ _
        have hfirst : opened <:+ before' ++ opening ++ after' := by
          rw [heq]
          exact List.suffix_append _ _
        have hsuffix : after' <:+ opened :=
          List.suffix_of_suffix_length_le hlater hfirst (by omega)
        exact hclosing (hsuffix.subset hmem)
      · simp at hnext
  · intro hnone
    cases hnext : nextHole? cs with
    | none => rfl
    | some found =>
      obtain ⟨hole, rest⟩ := found
      refine absurd ⟨hole.before, hole.name ++ closing ++ rest, ?_, ?_⟩ hnone
      · rw [eq_of_nextHole? hnext]
        simp [placeholder]
      · simp [closing]

/-- The reading of a text, placeholder by placeholder. -/
def segments (cs : List Char) : Segments :=
  match _hnext : nextHole? cs with
  | none => ⟨[], cs⟩
  | some (hole, rest) => (segments rest).consHole hole
termination_by cs.length
decreasing_by exact length_lt_of_nextHole? _hnext

private theorem segments_of_none {cs : List Char} (hnext : nextHole? cs = none) :
    segments cs = ⟨[], cs⟩ := by
  rw [segments]
  split
  · rfl
  · simp_all

private theorem segments_of_some {cs rest : List Char} {hole : Hole}
    (hnext : nextHole? cs = some (hole, rest)) : segments cs = (segments rest).consHole hole := by
  rw [segments]
  split
  · simp_all
  · rename_i hsome
    rw [hsome] at hnext
    simp only [Option.some.injEq, Prod.mk.injEq] at hnext
    rw [hnext.1, hnext.2]

/-- A text in which no opening is closed is literal as a whole. -/
theorem reads_nil {cs : List Char} (hcs : ¬ HasPlaceholder cs) : Segments.Reads ⟨[], cs⟩ cs :=
  ⟨by simp [Segments.write], by simp, by simp, hcs⟩

/-- A reading with a placeholder in front is a reading of what stands behind it. -/
theorem reads_consHole_iff {s : Segments} {hole : Hole} {cs : List Char} :
    (s.consHole hole).Reads cs ↔ ¬ opening <:+: hole.before ∧ '\x7d' ∉ hole.name ∧
      ∃ rest, cs = hole.before ++ placeholder hole.name ++ rest ∧ s.Reads rest := by
  constructor
  · intro h
    refine ⟨h.before hole List.mem_cons_self, h.name hole List.mem_cons_self,
      s.write placeholder, ?_, ?_⟩
    · rw [← h.write_eq, Segments.write_consHole]
    · exact ⟨rfl, fun other hmem => h.before other (List.mem_cons_of_mem hole hmem),
        fun other hmem => h.name other (List.mem_cons_of_mem hole hmem), h.tail⟩
  · rintro ⟨hbefore, hname, rest, rfl, h⟩
    refine ⟨?_, ?_, ?_, h.tail⟩
    · rw [Segments.write_consHole, h.write_eq]
    · simpa [Segments.consHole] using ⟨hbefore, h.before⟩
    · simpa [Segments.consHole] using ⟨hname, h.name⟩

/-- What the scan finds is a reading. -/
theorem reads_segments (cs : List Char) : (segments cs).Reads cs := by
  induction cs using segments.induct with
  | case1 cs hnext =>
    rw [segments_of_none hnext]
    exact reads_nil (nextHole?_eq_none_iff.mp hnext)
  | case2 cs hole rest hnext ih =>
    rw [segments_of_some hnext]
    obtain ⟨heq, hbefore, hname⟩ := nextHole?_eq_some_iff.mp hnext
    exact reads_consHole_iff.mpr ⟨hbefore, hname, rest, heq, ih⟩

/-- A text has no other reading. -/
theorem Segments.Reads.eq_segments {s : Segments} {cs : List Char} (h : s.Reads cs) :
    s = segments cs := by
  induction s using Segments.hole_induction generalizing cs with
  | tail rest =>
    have htail : rest = cs := by simpa [Segments.write] using h.write_eq
    rw [segments_of_none (nextHole?_eq_none_iff.mpr (htail ▸ h.tail)), htail]
  | hole hole s ih =>
    obtain ⟨hbefore, hname, rest, heq, hrest⟩ := reads_consHole_iff.mp h
    have hnext : nextHole? cs = some (hole, rest) :=
      nextHole?_eq_some_iff.mpr ⟨heq, hbefore, hname⟩
    rw [segments_of_some hnext, ← ih hrest]

/-- Substitution passes over a text in its reading. -/
theorem substituteFrom_eq_write (values : Values) (cs : List Char) :
    substituteFrom values cs = (segments cs).write (fill values) := by
  induction cs using segments.induct with
  | case1 cs hnext =>
    rw [substituteFrom, segments_of_none hnext]
    split <;> simp_all [Segments.write]
  | case2 cs hole rest hnext ih =>
    rw [substituteFrom, segments_of_some hnext, Segments.write_consHole, ← ih]
    split <;> simp_all

/-- The list of names passes over a text in the same reading. -/
theorem namesFrom_eq_names (cs : List Char) : namesFrom cs = (segments cs).names := by
  induction cs using segments.induct with
  | case1 cs hnext =>
    rw [namesFrom, segments_of_none hnext]
    split <;> simp_all [Segments.names]
  | case2 cs hole rest hnext ih =>
    rw [namesFrom, segments_of_some hnext, Segments.names_consHole, ← ih]
    split <;> simp_all

/-- Without values every placeholder is written as it stands. -/
theorem fill_of_isEmpty {values : Values} (hempty : values.isEmpty = true) :
    fill values = placeholder := by
  funext name
  have hentries : values.entries = [] := by simpa [Values.isEmpty] using hempty
  simp [fill, Values.get?, hentries]

/-- A blank text has no placeholder, for a dollar sign is not white space. -/
theorem not_hasPlaceholder_of_allBlank {cs : List Char} (hblank : Text.allBlank cs = true) :
    ¬ HasPlaceholder cs := by
  rintro ⟨before, after, rfl, -⟩
  have hdollar : Text.allBlank opening = false := by decide
  simp [hdollar] at hblank

/-- Texts that are returned as they are would not change by substitution either. -/
theorem substitute_eq (values : Values) (expression : String) :
    substitute values expression =
      String.ofList ((segments expression.toList).write (fill values)) := by
  rw [substitute]
  split
  · rename_i hreturned
    rw [Bool.or_eq_true] at hreturned
    cases hreturned with
    | inl hempty =>
      rw [fill_of_isEmpty hempty, (reads_segments _).write_eq, String.ofList_toList]
    | inr hblank =>
      rw [segments_of_none (nextHole?_eq_none_iff.mpr (not_hasPlaceholder_of_allBlank hblank))]
      simp [Segments.write]
  · rw [substituteFrom_eq_write]

/-- The listed placeholders are the names of the reading, empty ones left out. -/
theorem placeholders_eq (expression : String) :
    placeholders expression = (segments expression.toList).names.map String.ofList := by
  rw [placeholders, namesFrom_eq_names]

/-- The name of a placeholder is listed, unless it is empty. -/
theorem mem_placeholders_of_mem_holes {expression : String} {hole : Hole}
    (hmem : hole ∈ (segments expression.toList).holes) (hname : hole.name ≠ []) :
    String.ofList hole.name ∈ placeholders expression := by
  rw [placeholders_eq, Segments.names]
  apply List.mem_map_of_mem
  rw [List.mem_filter]
  exact ⟨List.mem_map_of_mem hmem, by simpa using hname⟩

/-- Every text has one reading and no other, and both scanners pass over the text in it. The names
    are those of its placeholders that are not empty; substitution puts a value, in canonical
    spacing, in the place of each placeholder whose name has one, the empty name included, and
    copies the rest. Texts that are returned without a scan are no exception. -/
theorem exists_unique_reading (expression : String) :
    ∃ reading : Segments,
      (∀ other : Segments, other.Reads expression.toList ↔ other = reading) ∧
      placeholders expression = reading.names.map String.ofList ∧
      ∀ values : Values, substitute values expression =
        String.ofList (reading.write fun name =>
          match values.get? (String.ofList name) with
          | some value => Text.normalizeSpace value.toList
          | none => placeholder name) := by
  refine ⟨segments expression.toList, ?_, placeholders_eq expression, ?_⟩
  · intro other
    constructor
    · exact Segments.Reads.eq_segments
    · rintro rfl
      exact reads_segments expression.toList
  · intro values
    exact substitute_eq values expression

end RuleVerify.Template
