import Mathlib.Data.List.Infix
import RuleVerify.Library
import RuleVerify.Proofs.Text.Split

namespace RuleVerify.Library

open RuleVerify.Expr (Value Fault)

variable {v a b r : Value} {s t function : String} {test : List Char → List Char → Bool}

/-- A tuple is the only value without a text. -/
theorem exists_text_iff : (∃ s, text v = .ok s) ↔ v.kind ≠ .tuple := by
  cases v with
  | tuple items => simp [text, Value.kind]
  | _ => simp [text, Value.kind, pure, Except.pure]

private theorem text_cases (v : Value) :
    (∃ s, text v = .ok s) ∨ text v = .error .tupleHasNoText := by
  cases v with
  | tuple items => exact .inr rfl
  | _ => exact .inl ⟨_, rfl⟩

/-- Several arguments arrive as one tuple, so nothing else stands for two. -/
theorem length_arguments_eq_two_iff : (arguments v).length = 2 ↔ ∃ a b, v = .tuple [a, b] := by
  cases v <;> simp [arguments, List.length_eq_two]

private theorem twoArguments_tuple : twoArguments function (.tuple [a, b]) = .ok (a, b) := rfl

private theorem twoArguments_of_length_ne (hlength : (arguments v).length ≠ 2) :
    twoArguments function v = .error (.argumentCount function 2 (arguments v).length) := by
  unfold twoArguments
  split
  · rename_i a b harguments
    exact absurd (congrArg List.length harguments) hlength
  · rfl

/-- Two arguments with the texts `s` and `t`. -/
def HasTexts (v : Value) (s t : String) : Prop :=
  ∃ a b, v = .tuple [a, b] ∧ text a = .ok s ∧ text b = .ok t

/-- Two arguments have texts exactly when neither is a tuple. -/
theorem exists_hasTexts_iff :
    (∃ s t, HasTexts v s t) ↔ ∃ a b, v = .tuple [a, b] ∧ a.kind ≠ .tuple ∧ b.kind ≠ .tuple := by
  simp only [← exists_text_iff]
  constructor
  · rintro ⟨s, t, a, b, hv, hs, ht⟩
    exact ⟨a, b, hv, ⟨s, hs⟩, ⟨t, ht⟩⟩
  · rintro ⟨a, b, hv, ⟨s, hs⟩, ⟨t, ht⟩⟩
    exact ⟨s, t, a, b, hv, hs, ht⟩

private theorem HasTexts.ne_search (htexts : HasTexts v s t) (items : List Value) (item : Value) :
    v ≠ .tuple [.tuple items, item] := by
  rintro rfl
  obtain ⟨a, b, hv, hs, -⟩ := htexts
  cases hv
  cases hs

/-- Why a helper cannot compare what it is given. The number of arguments is looked at first. -/
def refusal (function : String) (v : Value) : Fault :=
  if (arguments v).length = 2 then .tupleHasNoText
  else .argumentCount function 2 (arguments v).length

/-- On two texts a test gives its answer, never an error. -/
theorem HasTexts.onTexts_eq (htexts : HasTexts v s t) :
    onTexts function test v = .ok (.boolean (test s.toList t.toList)) := by
  obtain ⟨a, b, rfl, hs, ht⟩ := htexts
  simp [onTexts, twoArguments_tuple, hs, ht, bind, Except.bind, pure, Except.pure]

/-- Without two texts a test is refused, whatever the test. -/
theorem onTexts_of_not_hasTexts (hnone : ¬ ∃ s t, HasTexts v s t) :
    onTexts function test v = .error (refusal function v) := by
  by_cases hlength : (arguments v).length = 2
  · rw [refusal, if_pos hlength]
    obtain ⟨a, b, rfl⟩ := length_arguments_eq_two_iff.mp hlength
    obtain ⟨s, hs⟩ | hs := text_cases a
    · obtain ⟨t, ht⟩ | ht := text_cases b
      · exact absurd ⟨s, t, a, b, rfl, hs, ht⟩ hnone
      · simp [onTexts, twoArguments_tuple, hs, ht, bind, Except.bind]
    · simp [onTexts, twoArguments_tuple, hs, bind, Except.bind]
  · rw [refusal, if_neg hlength, onTexts, twoArguments_of_length_ne hlength]
    rfl

/-- A test succeeds exactly on two texts. -/
theorem onTexts_eq_ok_iff :
    onTexts function test v = .ok r ↔
      ∃ s t, HasTexts v s t ∧ r = .boolean (test s.toList t.toList) := by
  constructor
  · intro hanswer
    by_cases hsome : ∃ s t, HasTexts v s t
    · obtain ⟨s, t, htexts⟩ := hsome
      rw [htexts.onTexts_eq] at hanswer
      cases hanswer
      exact ⟨s, t, htexts, rfl⟩
    · rw [onTexts_of_not_hasTexts hsome] at hanswer
      cases hanswer
  · rintro ⟨s, t, htexts, rfl⟩
    exact htexts.onTexts_eq

/-- The second text stands at the start of the first. The empty text does so in every text. -/
theorem startsWith_eq_ok_iff :
    startsWith v = .ok r ↔
      ∃ s t, HasTexts v s t ∧ r = .boolean (decide (t.toList <+: s.toList)) := by
  have htest (cs ds : List Char) : ds.isPrefixOf cs = decide (ds <+: cs) := by
    rw [Bool.eq_iff_iff, decide_eq_true_iff, List.isPrefixOf_iff_prefix]
  simp only [startsWith, onTexts_eq_ok_iff, htest]

/-- The second text stands at the end of the first. The empty text does so in every text. -/
theorem endsWith_eq_ok_iff :
    endsWith v = .ok r ↔
      ∃ s t, HasTexts v s t ∧ r = .boolean (decide (t.toList <:+ s.toList)) := by
  have htest (cs ds : List Char) : ds.isSuffixOf cs = decide (ds <:+ cs) := by
    rw [Bool.eq_iff_iff, decide_eq_true_iff, List.isSuffixOf_iff_suffix]
  simp only [endsWith, onTexts_eq_ok_iff, htest]

/-- Among the items of a tuple the second argument is looked for as a value. -/
theorem includes_tuple (items : List Value) (item : Value) :
    includes (.tuple [.tuple items, item]) =
      .ok (.boolean (decide (∃ x ∈ items, item == x))) := by
  have hcontains : items.contains item = decide (∃ x ∈ items, item == x) := by
    rw [Bool.eq_iff_iff, decide_eq_true_iff, List.contains_iff_exists_mem_beq]
  rw [← hcontains]
  rfl

/-- Where no tuple is searched, inclusion is one more comparison of texts. -/
theorem includes_eq_onTexts (hnone : ¬ ∃ items item, v = .tuple [.tuple items, item]) :
    includes v = onTexts "_.includes" (fun cs ds => Text.occursIn ds cs) v := by
  by_cases hlength : (arguments v).length = 2
  · obtain ⟨a, b, rfl⟩ := length_arguments_eq_two_iff.mp hlength
    cases a with
    | tuple items => exact absurd ⟨items, b, rfl⟩ hnone
    | _ => rfl
  · rw [includes, onTexts, twoArguments_of_length_ne hlength]
    rfl

/-- The second argument is among the items of a tuple, or it is a part of the first text. These are
    all arguments that are not refused. -/
theorem includes_eq_ok_iff :
    includes v = .ok r ↔
      (∃ items item, v = .tuple [.tuple items, item] ∧
        r = .boolean (decide (∃ x ∈ items, item == x))) ∨
      ∃ s t, HasTexts v s t ∧ r = .boolean (decide (t.toList <:+: s.toList)) := by
  by_cases hsearch : ∃ items item, v = .tuple [.tuple items, item]
  · obtain ⟨items, item, rfl⟩ := hsearch
    rw [includes_tuple]
    constructor
    · intro hanswer
      cases hanswer
      exact .inl ⟨items, item, rfl, rfl⟩
    · rintro (⟨items', item', hv, rfl⟩ | ⟨s, t, htexts, -⟩)
      · cases hv
        rfl
      · exact absurd rfl (htexts.ne_search items item)
  · have htest (cs ds : List Char) : Text.occursIn ds cs = decide (ds <:+: cs) := by
      rw [Bool.eq_iff_iff, decide_eq_true_iff, Text.occursIn_iff]
    simp only [includes_eq_onTexts hsearch, onTexts_eq_ok_iff, htest]
    constructor
    · exact .inr
    · rintro (⟨items, item, hv, -⟩ | htexts)
      · exact absurd ⟨items, item, hv⟩ hsearch
      · exact htexts

private theorem HasTexts.includes_eq_true (htexts : HasTexts v s t)
    (hinside : t.toList <:+: s.toList) :
    includes v = .ok (.boolean true) :=
  includes_eq_ok_iff.mpr (.inr ⟨s, t, htexts, by rw [decide_eq_true hinside]⟩)

/-- What a text begins or ends with stands in it. -/
theorem includes_of_startsWith_or_endsWith
    (hend : startsWith v = .ok (.boolean true) ∨ endsWith v = .ok (.boolean true)) :
    includes v = .ok (.boolean true) := by
  obtain hstarts | hends := hend
  · obtain ⟨s, t, htexts, htrue⟩ := startsWith_eq_ok_iff.mp hstarts
    have hfront : t.toList <+: s.toList := by simpa using htrue
    exact htexts.includes_eq_true hfront.isInfix
  · obtain ⟨s, t, htexts, htrue⟩ := endsWith_eq_ok_iff.mp hends
    have hback : t.toList <:+ s.toList := by simpa using htrue
    exact htexts.includes_eq_true hback.isInfix

/-- The characters of a string and the items of a tuple. -/
def partCount : Value → Nat
  | .string s => s.length
  | .tuple items => items.length
  | _ => 0

/-- Every argument is empty or not; none is refused. -/
theorem isEmpty_eq (v : Value) : isEmpty v = .ok (.boolean (decide (partCount v = 0))) := by
  cases v with
  | string s =>
    have hempty : s.isEmpty = decide (s.length = 0) := by
      rw [Bool.eq_iff_iff, decide_eq_true_iff, String.isEmpty_iff, String.length_eq_zero_iff]
    rw [partCount, ← hempty]
    rfl
  | tuple items =>
    have hempty : items.isEmpty = decide (items.length = 0) := by
      rw [Bool.eq_iff_iff, decide_eq_true_iff, List.isEmpty_iff, List.length_eq_zero_iff]
    rw [partCount, ← hempty]
    rfl
  | _ => rfl

/-- Strings, tuples and the empty value have a size, and nothing else has. -/
theorem size_eq_ok_iff :
    size v = .ok r ↔
      v.kind ∈ [.string, .tuple, .empty] ∧ r = .int (Int64.ofNat (partCount v)) := by
  cases v <;> simp [size, Value.kind, partCount, pure, Except.pure, eq_comm]

/-- A count that fits a machine word does not wrap around to zero. -/
theorem int64OfNat_eq_zero_iff {n : Nat} (hn : n < UInt64.size) : Int64.ofNat n = 0 ↔ n = 0 := by
  have hword : (BitVec.ofNat 64 n).toNat = n := by
    rw [BitVec.toNat_ofNat]
    exact Nat.mod_eq_of_lt hn
  rw [← Int64.toBitVec_inj, Int64.toBitVec_ofNat', Int64.toBitVec_zero, BitVec.toNat_eq, hword,
    BitVec.toNat_zero]

/-- Where there is a size it is zero exactly for what is empty. -/
theorem isEmpty_iff_of_size (hsize : size v = .ok r) (hcount : partCount v < UInt64.size) :
    isEmpty v = .ok (.boolean true) ↔ r = .int 0 := by
  obtain ⟨-, rfl⟩ := size_eq_ok_iff.mp hsize
  simp [isEmpty_eq, int64OfNat_eq_zero_iff hcount]

end RuleVerify.Library
