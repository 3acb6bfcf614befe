import RuleVerify.Proofs.Text.Joints
import RuleVerify.Text.Quoted

namespace RuleVerify.Text

/-- What is encoded is read off the front of a text: the text tells the value and what follows. -/
def SelfDelimiting {α : Type} (encode : α → List Char) : Prop :=
  ∀ a b rest rest', encode a ++ rest = encode b ++ rest' → a = b ∧ rest = rest'

variable {α : Type} {encode : α → List Char} {c : Char} {rest rest' : List Char}

private theorem SelfDelimiting.of_read {read : List Char → Option (α × List Char)}
    (hread : ∀ a rest, read (encode a ++ rest) = some (a, rest)) : SelfDelimiting encode := by
  intro a b rest rest' heq
  have hboth := (hread a rest).symm.trans (heq ▸ hread b rest')
  rwa [Option.some.injEq, Prod.mk.injEq] at hboth

private theorem SelfDelimiting.comp {β : Type} {f : β → α} (h : SelfDelimiting encode)
    (hf : ∀ b b', f b = f b' → b = b') : SelfDelimiting fun b => encode (f b) := by
  intro b b' rest rest' heq
  obtain ⟨hvalue, hrest⟩ := h _ _ _ _ heq
  exact ⟨hf b b' hvalue, hrest⟩

/-- A fixed text in front does not hide where an encoding ends. -/
theorem SelfDelimiting.prepend (h : SelfDelimiting encode) (front : List Char) :
    SelfDelimiting fun a => front ++ encode a := by
  intro a b rest rest' heq
  rw [List.append_assoc, List.append_assoc] at heq
  exact h a b rest rest' (List.append_cancel_left heq)

/-- A fixed text behind an encoding does not make its end ambiguous. -/
theorem SelfDelimiting.append (h : SelfDelimiting encode) (back : List Char) :
    SelfDelimiting fun a => encode a ++ back := by
  intro a b rest rest' heq
  rw [List.append_assoc, List.append_assoc] at heq
  obtain ⟨hvalue, hrest⟩ := h a b _ _ heq
  exact ⟨hvalue, List.append_cancel_left hrest⟩

/-- A row of encoded values is ended by a character with which no encoded value begins. -/
theorem SelfDelimiting.flatMap (h : SelfDelimiting encode)
    (hend : ∀ a rest rest', encode a ++ rest ≠ c :: rest') :
    SelfDelimiting fun items : List α => items.flatMap encode ++ [c] := by
  intro items items' rest rest' heq
  induction items generalizing items' with
  | nil =>
    cases items' with
    | nil => exact ⟨rfl, by simpa using heq⟩
    | cons item' items' =>
      simp only [List.flatMap_nil, List.nil_append, List.flatMap_cons, List.append_assoc] at heq
      exact absurd heq.symm (hend item' _ _)
  | cons item items ih =>
    cases items' with
    | nil =>
      simp only [List.flatMap_nil, List.nil_append, List.flatMap_cons, List.append_assoc] at heq
      exact absurd heq (hend item _ _)
    | cons item' items' =>
      simp only [List.flatMap_cons, List.append_assoc] at heq
      obtain ⟨rfl, htail⟩ := h _ _ _ _ heq
      obtain ⟨rfl, hrest⟩ := ih items' (by simpa using htail)
      exact ⟨rfl, hrest⟩

def hexValue (c : Char) : Nat :=
  if c.isDigit then c.toNat - '0'.toNat else c.toNat - 'a'.toNat + 10

/-- The number that hexadecimal digits write. -/
def ofHexDigits (digits : List Char) : Nat := digits.foldl (fun n c => 16 * n + hexValue c) 0

private theorem hexValue_digitChar {n : Nat} (hn : n < 16) : hexValue n.digitChar = n := by
  have hall : ∀ m : Fin 16, hexValue (Nat.digitChar m) = m := by decide
  exact hall ⟨n, hn⟩

private theorem ofHexDigits_hexDigits (n : Nat) : ofHexDigits (hexDigits n) = n := by
  induction n using Nat.strongRecOn with
  | _ n ih =>
    rw [hexDigits, Nat.toDigits_eq_if (by decide)]
    split
    · rename_i hlt
      simp [ofHexDigits, hexValue_digitChar hlt]
    · have hdiv := ih (n / 16) (by omega)
      rw [hexDigits, ofHexDigits] at hdiv
      rw [ofHexDigits, List.foldl_append, hdiv, List.foldl_cons, List.foldl_nil,
        hexValue_digitChar (Nat.mod_lt n (by decide))]
      omega

private theorem ne_brace_of_mem_hexDigits {n : Nat} (hmem : c ∈ hexDigits n) : c ≠ '\x7d' := by
  have hall : ∀ m : Fin 16, Nat.digitChar m ≠ '\x7d' := by decide
  induction n using Nat.strongRecOn with
  | _ n ih =>
    rw [hexDigits, Nat.toDigits_eq_if (by decide)] at hmem
    split at hmem
    · rename_i hlt
      rw [List.mem_singleton.mp hmem]
      exact hall ⟨n, hlt⟩
    · obtain hfront | hlast := List.mem_append.mp hmem
      · exact ih (n / 16) (by omega) hfront
      · rw [List.mem_singleton.mp hlast]
        exact hall ⟨n % 16, Nat.mod_lt n (by decide)⟩

/-- The character for which a letter stands behind a backslash. -/
def escapedBy (letter : Char) : Char :=
  if letter = '0' then '\x00'
  else if letter = 't' then '\t'
  else if letter = 'n' then '\n'
  else if letter = 'r' then '\r'
  else letter

/-- The first character of a text in quotes, and the text behind it. -/
def readEscaped? : List Char → Option (Char × List Char)
  | '\\' :: 'u' :: '\x7b' :: cs =>
    some (Char.ofNat (ofHexDigits (cs.takeWhile (· ≠ '\x7d'))),
      (cs.dropWhile (· ≠ '\x7d')).drop 1)
  | '\\' :: letter :: cs => some (escapedBy letter, cs)
  | c :: cs => some (c, cs)
  | [] => none

private theorem readEscaped?_hex (n : Nat) (rest : List Char) :
    readEscaped? (['\\', 'u', '\x7b'] ++ hexDigits n ++ ['\x7d'] ++ rest) =
      some (Char.ofNat n, rest) := by
  have hdigits : ∀ c ∈ hexDigits n, decide (c ≠ '\x7d') = true := by
    intro c hmem
    exact decide_eq_true (ne_brace_of_mem_hexDigits hmem)
  simp only [List.append_assoc, List.cons_append, List.nil_append, readEscaped?,
    List.takeWhile_append_of_pos hdigits, List.dropWhile_append_of_pos hdigits]
  simp [ofHexDigits_hexDigits]

private theorem readEscaped?_escapeChar (c : Char) (rest : List Char) :
    readEscaped? (escapeChar c ++ rest) = some (c, rest) := by
  unfold escapeChar
  split_ifs with hquote hbackslash hzero htab hfeed hreturn hhidden
  · rw [hquote]; rfl
  · rw [hbackslash]; rfl
  · rw [hzero]; rfl
  · rw [htab]; rfl
  · rw [hfeed]; rfl
  · rw [hreturn]; rfl
  · rw [readEscaped?_hex, Char.ofNat_toNat]
  · unfold readEscaped?
    simp [hbackslash]

/-- An escape tells the character that it stands for and where it ends. -/
theorem selfDelimiting_escapeChar : SelfDelimiting escapeChar :=
  .of_read readEscaped?_escapeChar

private theorem escapeChar_append_ne (c : Char) (rest rest' : List Char) :
    escapeChar c ++ rest ≠ '"' :: rest' := by
  unfold escapeChar
  split_ifs with hquote <;> simp [*]

private theorem selfDelimiting_quoteChars : SelfDelimiting quoteChars := by
  intro cs cs' rest rest' heq
  exact selfDelimiting_escapeChar.flatMap escapeChar_append_ne _ _ _ _ (List.cons.inj heq).2

/-- A quoted text ends at its closing quote, whatever it holds and whatever follows. -/
theorem selfDelimiting_quote : SelfDelimiting fun text : String => quoteChars text.toList :=
  selfDelimiting_quoteChars.comp fun _ _ => String.toList_injective

private theorem toList_quoteList (texts : List String) :
    (quoteList texts).toList =
      '[' :: (List.intercalate [',', ' '] (texts.map fun text => quoteChars text.toList) ++
        [']']) := by
  simp [quoteList, quote, Function.comp_def]

/-- Behind the bracket a quote opens the first text or another bracket closes the list. -/
theorem selfDelimiting_quoteList : SelfDelimiting fun texts => (quoteList texts).toList := by
  have hlater : SelfDelimiting fun texts : List String =>
      texts.flatMap (fun text => [',', ' '] ++ quoteChars text.toList) ++ [']'] :=
    (selfDelimiting_quote.prepend [',', ' ']).flatMap (by simp)
  intro texts texts' rest rest' heq
  simp only [toList_quoteList, List.cons_append, List.cons.injEq, true_and] at heq
  cases texts with
  | nil =>
    cases texts' with
    | nil => exact ⟨rfl, by simpa using heq⟩
    | cons text' texts' => simp [Text.intercalate_cons, quoteChars] at heq
  | cons text texts =>
    cases texts' with
    | nil => simp [Text.intercalate_cons, quoteChars] at heq
    | cons text' texts' =>
      simp only [List.map_cons, Text.intercalate_cons, List.flatMap_map, List.append_assoc] at heq
      obtain ⟨rfl, htail⟩ := selfDelimiting_quote _ _ _ _ heq
      obtain ⟨rfl, hrest⟩ := hlater texts texts' rest rest' (by simpa using htail)
      exact ⟨rfl, hrest⟩

end RuleVerify.Text
