import RuleVerify.Proofs.Text.Joints
import RuleVerify.Proofs.Text.Words
import RuleVerify.Template

namespace RuleVerify

namespace Text

variable {cs ds word : List Char} {ws : List (List Char)} {c : Char}

/-- A text without white space that is not empty. -/
def IsWord (word : List Char) : Prop := word ≠ [] ∧ ∀ c ∈ word, isBlank c = false

/-- The words of a text in their order. Each reaches as far as it can: it begins behind white space
    or at the beginning, and ends before white space or at the end. -/
inductive HasWords : List Char → List (List Char) → Prop
  | blank {cs : List Char} (hblank : allBlank cs = true) : HasWords cs []
  | word {margin word rest : List Char} {ws : List (List Char)} (hmargin : allBlank margin = true)
      (hword : IsWord word) (hend : ∀ c ∈ rest.head?, isBlank c = true) (hrest : HasWords rest ws) :
      HasWords (margin ++ word ++ rest) (word :: ws)

/-- White space stands only as single blanks, each between two other characters. -/
def SinglySpaced (cs : List Char) : Prop :=
  ∀ before c after, cs = before ++ c :: after → isBlank c = true →
    c = ' ' ∧ (∃ last ∈ before.getLast?, isBlank last = false) ∧
      ∃ next ∈ after.head?, isBlank next = false

private theorem words_append_cons (hc : isBlank c = true) (cs ds : List Char) :
    words (cs ++ c :: ds) = words cs ++ words ds := by
  rw [words, List.splitOnP_append_cons cs ds hc, List.filter_append]
  rfl

private theorem words_of_allBlank (hblank : allBlank cs = true) : words cs = [] := by
  induction cs with
  | nil => rfl
  | cons c cs ih =>
    obtain ⟨hc, hcs⟩ := allBlank_cons.mp hblank
    have hsplit : words ([] ++ c :: cs) = words [] ++ words cs := words_append_cons hc [] cs
    rw [← List.nil_append (c :: cs), hsplit, ih hcs]
    rfl

private theorem words_append_of_blank_left (hblank : allBlank cs = true) :
    words (cs ++ ds) = words ds := by
  induction cs with
  | nil => rfl
  | cons c cs ih =>
    obtain ⟨hc, hcs⟩ := allBlank_cons.mp hblank
    have hsplit : words ([] ++ c :: (cs ++ ds)) = words [] ++ words (cs ++ ds) :=
      words_append_cons hc [] (cs ++ ds)
    rw [List.cons_append, ← List.nil_append (c :: (cs ++ ds)), hsplit, ih hcs]
    rfl

private theorem IsWord.words_eq (hword : IsWord word) : words word = [word] := by
  rw [words, List.splitOnP_eq_singleton hword.2]
  simp [hword.1]

/-- A word that white space or the end follows is the first word of the text. -/
theorem IsWord.words_append (hword : IsWord word) (hend : ∀ c ∈ ds.head?, isBlank c = true) :
    words (word ++ ds) = word :: words ds := by
  cases ds with
  | nil => rw [List.append_nil, hword.words_eq, words_of_allBlank rfl]
  | cons c ds =>
    have hc : isBlank c = true := hend c rfl
    have hsplit : words ([] ++ c :: ds) = words [] ++ words ds := words_append_cons hc [] ds
    rw [words_append_cons hc, hword.words_eq, ← List.nil_append (c :: ds), hsplit]
    rfl

private theorem HasWords.eq_words (h : HasWords cs ws) : ws = words cs := by
  induction h with
  | blank hblank => rw [words_of_allBlank hblank]
  | word hmargin hword hend _ ih =>
    rw [List.append_assoc, words_append_of_blank_left hmargin, hword.words_append hend, ih]

private theorem HasWords.isWord (h : HasWords cs ws) (hmem : word ∈ ws) : IsWord word := by
  induction h with
  | blank => simp at hmem
  | word _ hword _ _ ih =>
    obtain rfl | hlater := List.mem_cons.mp hmem
    · exact hword
    · exact ih hlater

/-- A text that is not blank has a first word. -/
theorem exists_word (hcs : allBlank cs = false) :
    ∃ margin word rest, cs = margin ++ word ++ rest ∧ allBlank margin = true ∧ IsWord word ∧
      ∀ c ∈ rest.head?, isBlank c = true := by
  obtain ⟨margin, hmargin, hsplit⟩ := exists_trimStart cs
  obtain ⟨first, tail, hstart, hfirst⟩ := exists_trimStart_eq_cons hcs
  refine ⟨margin, (trimStart cs).takeWhile (!isBlank ·), (trimStart cs).dropWhile (!isBlank ·), ?_,
    hmargin, ⟨?_, ?_⟩, ?_⟩
  · rw [List.append_assoc, List.takeWhile_append_dropWhile, ← hsplit]
  · simp [hstart, hfirst]
  · intro c hmem
    simpa using List.mem_takeWhile_imp hmem
  · intro c hhead
    have hnot := List.head?_dropWhile_not (!isBlank ·) (trimStart cs)
    rw [Option.mem_def] at hhead
    simpa only [hhead, Bool.not_eq_false'] using hnot

/-- Every text consists of words and white space. -/
theorem exists_hasWords (cs : List Char) : ∃ ws, HasWords cs ws := by
  induction hlength : cs.length using Nat.strongRecOn generalizing cs with
  | _ n ih =>
    cases hblank : allBlank cs with
    | true => exact ⟨[], .blank hblank⟩
    | false =>
      obtain ⟨margin, word, rest, rfl, hmargin, hword, hend⟩ := exists_word hblank
      have hpositive := List.length_pos_of_ne_nil hword.1
      simp only [List.length_append] at hlength
      obtain ⟨ws, hrest⟩ := ih rest.length (by omega) rest rfl
      exact ⟨word :: ws, .word hmargin hword hend hrest⟩

/-- The words of a text are determined by it, and they are those that the scan finds. -/
theorem hasWords_iff : HasWords cs ws ↔ ws = words cs := by
  obtain ⟨found, hfound⟩ := exists_hasWords cs
  constructor
  · exact HasWords.eq_words
  · rintro rfl
    exact hfound.eq_words ▸ hfound

/-- What the scan finds is not empty and holds no white space. -/
theorem isWord_of_mem_words (hmem : word ∈ words cs) : IsWord word :=
  (hasWords_iff.mpr rfl).isWord hmem

/-- Words with single blanks between them are read back. -/
theorem words_intercalate (hws : ∀ word ∈ ws, IsWord word) :
    words (List.intercalate [' '] ws) = ws := by
  induction ws with
  | nil => rfl
  | cons word ws ih =>
    simp only [List.mem_cons, forall_eq_or_imp] at hws
    by_cases hnil : ws = []
    · rw [hnil, List.intercalate_singleton, hws.1.words_eq]
    · rw [List.intercalate_cons_of_ne_nil hnil, List.append_assoc, List.singleton_append,
        words_append_cons (by decide), hws.1.words_eq, ih hws.2, List.singleton_append]

private theorem IsWord.exists_last (hword : IsWord word) :
    ∃ last ∈ word.getLast?, isBlank last = false :=
  ⟨word.getLast hword.1, List.getLast?_eq_getLast_of_ne_nil hword.1,
    hword.2 _ (List.getLast_mem hword.1)⟩

private theorem exists_next_intercalate (hne : ws ≠ []) (hws : ∀ word ∈ ws, IsWord word) :
    ∃ next ∈ (List.intercalate [' '] ws).head?, isBlank next = false := by
  obtain ⟨word, ws, rfl⟩ := List.exists_cons_of_ne_nil hne
  obtain ⟨hword, hnot⟩ := hws word List.mem_cons_self
  obtain ⟨next, rest, rfl⟩ := List.exists_cons_of_ne_nil hword
  rw [intercalate_cons]
  exact ⟨next, rfl, hnot next List.mem_cons_self⟩

/-- A word and a blank in front of a text that begins with another word. -/
theorem SinglySpaced.cons_word (hword : IsWord word)
    (hnext : ∃ next ∈ cs.head?, isBlank next = false) (hcs : SinglySpaced cs) :
    SinglySpaced (word ++ ' ' :: cs) := by
  intro before c after heq hc
  obtain ⟨middle, rfl, hbehind⟩ | ⟨middle, rfl, hbehind⟩ := List.append_eq_append_iff.mp heq
  · cases middle with
    | nil =>
      obtain ⟨rfl, rfl⟩ := List.cons.inj hbehind
      exact ⟨rfl, by simpa using hword.exists_last, hnext⟩
    | cons blank middle =>
      obtain ⟨hsame, ⟨last, hlast, hnot⟩, hafter⟩ := hcs middle c after (List.cons.inj hbehind).2 hc
      refine ⟨hsame, ⟨last, ?_, hnot⟩, hafter⟩
      have hmiddle : (blank :: middle).getLast? = some last := by
        rw [List.getLast?_cons, Option.mem_def.mp hlast, Option.getD_some]
      rw [Option.mem_def, List.getLast?_append, hmiddle]
      rfl
  · cases middle with
    | nil =>
      obtain ⟨rfl, rfl⟩ := List.cons.inj hbehind
      exact ⟨rfl, by simpa using hword.exists_last, hnext⟩
    | cons d middle =>
      obtain ⟨rfl, -⟩ := List.cons.inj hbehind
      have hnot := hword.2 c (by simp)
      rw [hnot] at hc
      cases hc

/-- Words with single blanks between them are singly spaced. -/
theorem singlySpaced_intercalate (hws : ∀ word ∈ ws, IsWord word) :
    SinglySpaced (List.intercalate [' '] ws) := by
  induction ws with
  | nil =>
    intro before c after heq
    simp at heq
  | cons word ws ih =>
    simp only [List.mem_cons, forall_eq_or_imp] at hws
    by_cases hnil : ws = []
    · intro before c after heq hc
      rw [hnil, List.intercalate_singleton] at heq
      have hnot := hws.1.2 c (by simp [heq])
      rw [hnot] at hc
      cases hc
    · rw [List.intercalate_cons_of_ne_nil hnil, List.append_assoc]
      exact .cons_word hws.1 (exists_next_intercalate hnil hws.2) (ih hws.2)

/-- Canonical spacing keeps the words. -/
theorem words_normalizeSpace (cs : List Char) : words (normalizeSpace cs) = words cs :=
  words_intercalate fun _ hmem => isWord_of_mem_words hmem

/-- A text in canonical spacing is left as it is. -/
theorem normalizeSpace_normalizeSpace (cs : List Char) :
    normalizeSpace (normalizeSpace cs) = normalizeSpace cs := by
  conv_lhs => rw [normalizeSpace, words_normalizeSpace]
  rfl

/-- Canonical spacing makes two texts the same exactly when their words are. -/
theorem normalizeSpace_eq_iff : normalizeSpace cs = normalizeSpace ds ↔ words cs = words ds := by
  constructor
  · intro heq
    rw [← words_normalizeSpace cs, heq, words_normalizeSpace]
  · intro heq
    rw [normalizeSpace, heq, normalizeSpace]

end Text

/-- Canonical spacing leaves single blanks between the words of a text, which are the same before
    and after it, and nothing else of the white space. It changes nothing a second time, and two
    texts become the same exactly when they have the same words. -/
theorem Template.normalizeSpace_canonical (text : String) :
    (∃! words, Text.HasWords text.toList words) ∧
      Text.SinglySpaced (normalizeSpace text).toList ∧
      (∀ words, Text.HasWords (normalizeSpace text).toList words ↔
        Text.HasWords text.toList words) ∧
      normalizeSpace (normalizeSpace text) = normalizeSpace text ∧
      ∀ other, normalizeSpace text = normalizeSpace other ↔
        ∃ words, Text.HasWords text.toList words ∧ Text.HasWords other.toList words := by
  have htext (text : String) : (normalizeSpace text).toList = Text.normalizeSpace text.toList :=
    String.toList_ofList
  refine ⟨⟨Text.words text.toList, Text.hasWords_iff.mpr rfl, ?_⟩, ?_, ?_, ?_, ?_⟩
  · intro words hwords
    exact hwords.eq_words
  · rw [htext]
    exact Text.singlySpaced_intercalate fun _ hmem => Text.isWord_of_mem_words hmem
  · intro words
    rw [htext, Text.hasWords_iff, Text.hasWords_iff, Text.words_normalizeSpace]
  · rw [← String.toList_inj, htext, htext, Text.normalizeSpace_normalizeSpace]
  · intro other
    rw [← String.toList_inj, htext, htext, Text.normalizeSpace_eq_iff]
    simp only [Text.hasWords_iff, exists_eq_left]

/-- Line feeds, tabs and spaces of other widths become blanks. -/
example : Template.normalizeSpace "\n a\t\u2003b  c\u00a0" = "a b c" := by decide +kernel

end RuleVerify
