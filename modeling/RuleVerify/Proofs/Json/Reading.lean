import Mathlib.Data.List.Forall2
import RuleVerify.Json.Source
import RuleVerify.Proofs.Text.Joints

namespace RuleVerify.Json

private theorem hexUnit?_control {n : Nat} (hn : n < 0x20) :
    hexUnit? '0' '0' (Nat.digitChar (n / 16)) (Nat.digitChar (n % 16)) = some n := by
  have hall : ∀ m : Fin 0x20,
      hexUnit? '0' '0' (Nat.digitChar (m / 16)) (Nat.digitChar (m % 16)) = some m.val := by decide
  exact hall ⟨n, hn⟩

/-- A character is one code unit, however it is written. -/
theorem readString?_escapeChar (c : Char) (cs : List Char) :
    readString? (Value.escapeChar c ++ cs) =
      consRead c.toNat (Value.escapeChar c).length (readString? cs) := by
  unfold Value.escapeChar
  split_ifs with hquote hbackslash hback hform hfeed hreturn htab hcontrol
  · subst hquote; rfl
  · subst hbackslash; rfl
  · subst hback; rfl
  · subst hform; rfl
  · subst hfeed; rfl
  · subst hreturn; rfl
  · subst htab; rfl
  · simp only [List.cons_append, List.nil_append, readString?, hexUnit?_control hcontrol]
    rfl
  · simp [readString?, hbackslash, hcontrol]

/-- An escaped text is read up to its closing quote, whatever follows. -/
theorem readString?_escaped (cs rest : List Char) :
    readString? (cs.flatMap Value.escapeChar ++ '"' :: rest) =
      some (cs.map Char.toNat, (cs.flatMap Value.escapeChar).length + 1) := by
  induction cs with
  | nil => rfl
  | cons c cs ih =>
    rw [List.flatMap_cons, List.append_assoc, readString?_escapeChar, ih, consRead]
    simp only [Option.map_some, List.map_cons, List.length_append]
    congr 2
    omega

/-- No character is half a surrogate pair. -/
theorem joinSurrogates?_map_toNat (cs : List Char) :
    joinSurrogates? (cs.map Char.toNat) = some cs := by
  induction cs with
  | nil => rfl
  | cons c cs ih =>
    have hvalid : c.toNat < 0xD800 ∨ 0xDFFF < c.toNat := by
      obtain hlow | ⟨hhigh, -⟩ := c.valid
      · exact Or.inl hlow
      · exact Or.inr hhigh
    have hlow : isLowSurrogate c.toNat = false := by
      rw [isLowSurrogate, Bool.and_eq_false_iff, decide_eq_false_iff_not, decide_eq_false_iff_not]
      omega
    have hhigh : isHighSurrogate c.toNat = false := by
      rw [isHighSurrogate, Bool.and_eq_false_iff, decide_eq_false_iff_not, decide_eq_false_iff_not]
      omega
    rw [List.map_cons, joinSurrogates?.eq_def]
    simp [hlow, hhigh, ih]

private theorem tokensPassing?_eq_drop (n : Nat) (cs : List Char) :
    tokensPassing? n cs = tokensPassing? 0 (cs.drop n) := by
  induction cs generalizing n with
  | nil => simp [tokensPassing?]
  | cons c cs ih =>
    cases n with
    | zero => rfl
    | succ n => rw [tokensPassing?, ih, List.drop_succ_cons]

/-- The text is cut into these tokens, whatever tokens follow. -/
def Lexes (text : List Char) (ts : List Token) : Prop :=
  ∀ rest more, tokensPassing? 0 rest = some more →
    tokensPassing? 0 (text ++ rest) = some (ts ++ more)

theorem Lexes.nil : Lexes [] [] := fun _ _ h => h

/-- Texts one behind the other are cut into the tokens of both. -/
theorem Lexes.append {front back : List Char} {ts us : List Token} (hfront : Lexes front ts)
    (hback : Lexes back us) : Lexes (front ++ back) (ts ++ us) := by
  intro rest more hrest
  rw [List.append_assoc, List.append_assoc]
  exact hfront _ _ (hback _ _ hrest)

private theorem lexes_token {c : Char} {text : List Char} {t : Token} (hspace : isSpace c = false)
    (htoken : ∀ rest, token? (c :: (text ++ rest)) = some (t, text.length)) :
    Lexes (c :: text) [t] := by
  intro rest more hrest
  rw [List.cons_append, tokensPassing?, hspace, htoken rest]
  simp [tokensPassing?_eq_drop text.length, hrest]

/-- A rendered string is one token. -/
theorem lexes_string (text : String) :
    Lexes (Value.renderString text).toList [.string (some text)] := by
  have hchars : (Value.renderString text).toList =
      '"' :: (text.toList.flatMap Value.escapeChar ++ ['"']) := String.toList_ofList
  rw [hchars]
  apply lexes_token (by decide)
  intro rest
  rw [List.append_assoc, List.singleton_append, token?, readString?_escaped]
  simp [joinSurrogates?_map_toNat]

private theorem Lexes.behindCommas {texts : List (List Char)} {tss : List (List Token)}
    (h : List.Forall₂ Lexes texts tss) :
    Lexes (texts.flatMap ([','] ++ ·)) (tss.flatMap ([Token.comma] ++ ·)) := by
  have hcomma : Lexes [','] [.comma] := lexes_token (by decide) fun _ => rfl
  induction h with
  | nil => exact Lexes.nil
  | cons hfirst _ ih => exact (hcomma.append hfirst).append ih

/-- The tokens make up the value, whatever containers are open around it and whatever follows. -/
def Assembles (ts : List Token) (source : Source) : Prop :=
  ∀ frames more, assemble? .value frames (ts ++ more) = assemble? (.next source) frames more

private theorem assembles_string (text : Option String) :
    Assembles [.string text] (.string text) := by
  intro frames more
  rw [List.singleton_append, assemble?, assemble?.begin?]

/-- An empty container is closed where a value could begin. -/
theorem Assembles.itemOrClose {ts : List Token} {source : Source} (h : Assembles ts source)
    (frames : List Frame) (more : List Token) :
    assemble? .itemOrClose frames (ts ++ more) =
      assemble? (.next source) (.items [] :: frames) more := by
  rw [← h]
  have halone : assemble? .value [] ts = some source := by
    have hsome := h [] []
    rw [List.append_nil] at hsome
    rw [hsome, assemble?]
  cases ts with
  | nil => simp [assemble?] at halone
  | cons t ts =>
    cases t with
    | closeBracket => simp [assemble?, assemble?.begin?] at halone
    | _ => simp [assemble?]

/-- Once there is an item, the others follow behind commas and the bracket closes them all. -/
theorem assemble?_items {tss : List (List Token)} {sources : List Source}
    (h : List.Forall₂ Assembles tss sources) (source : Source) (before : List Source)
    (frames : List Frame) (more : List Token) :
    assemble? (.next source) (.items before :: frames)
        (tss.flatMap ([Token.comma] ++ ·) ++ .closeBracket :: more) =
      assemble? (.next (.array (before.reverse ++ source :: sources))) frames more := by
  induction h generalizing source before with
  | nil => simp [assemble?]
  | cons hnext _ ih =>
    rw [List.flatMap_cons, List.append_assoc, List.append_assoc, List.singleton_append, assemble?,
      hnext, ih]
    simp

/-- The tokens make up a member. -/
def AssemblesMember (ts : List Token) (member : Option String × Source) : Prop :=
  ∃ us, ts = .string member.1 :: .colon :: us ∧ Assembles us member.2

private theorem assemble?_members {tss : List (List Token)}
    {members : List (Option String × Source)}
    (h : List.Forall₂ AssemblesMember tss members) (name : Option String) (source : Source)
    (before : List (Option String × Source)) (frames : List Frame) (more : List Token) :
    assemble? (.next source) (.members before name :: frames)
        (tss.flatMap ([Token.comma] ++ ·) ++ .closeBrace :: more) =
      assemble? (.next (.object (before.reverse ++ (name, source) :: members))) frames more := by
  induction h generalizing name source before with
  | nil => simp [assemble?]
  | cons hnext _ ih =>
    obtain ⟨us, rfl, hvalue⟩ := hnext
    rw [List.flatMap_cons, List.append_assoc, List.append_assoc, List.singleton_append, assemble?,
      List.cons_append, List.cons_append, assemble?, hvalue, ih]
    simp

/-- The text is that of the value, wherever it stands. -/
def Reads (text : List Char) (source : Source) : Prop :=
  ∃ ts, Lexes text ts ∧ Assembles ts source

/-- The text is that of a member, wherever it stands in its object. -/
def ReadsMember (text : List Char) (member : Option String × Source) : Prop :=
  ∃ ts, Lexes text ts ∧ AssemblesMember ts member

/-- A text that is read wherever it stands is read on its own. -/
theorem Reads.ofText? {text : String} {source : Source} (h : Reads text.toList source) :
    Source.ofText? text = some source := by
  obtain ⟨ts, hlexes, hassembles⟩ := h
  have htokens := hlexes [] [] rfl
  have hvalue := hassembles [] []
  rw [List.append_nil] at htokens
  rw [Source.ofText?, htokens]
  simpa [assemble?] using hvalue

/-- A rendered string is read as its text. -/
theorem reads_string (text : String) :
    Reads (Value.renderString text).toList (.string (some text)) :=
  ⟨_, lexes_string text, assembles_string (some text)⟩

/-- A name, a colon and a text that is read make a member. -/
theorem Reads.member {text : List Char} {source : Source} (h : Reads text source)
    (name : String) :
    ReadsMember ((Value.renderString name).toList ++ [':'] ++ text) (some name, source) := by
  obtain ⟨ts, hlexes, hassembles⟩ := h
  have hcolon : Lexes [':'] [.colon] := lexes_token (by decide) fun _ => rfl
  exact ⟨_, ((lexes_string name).append hcolon).append hlexes, ts, rfl, hassembles⟩

private theorem exists_tokens {α : Type} {r : List Token → α → Prop} {texts : List (List Char)}
    {parts : List α}
    (h : List.Forall₂ (fun text part => ∃ ts, Lexes text ts ∧ r ts part) texts parts) :
    ∃ tss, List.Forall₂ Lexes texts tss ∧ List.Forall₂ r tss parts := by
  induction h with
  | nil => exact ⟨[], .nil, .nil⟩
  | cons hfirst _ ih =>
    obtain ⟨ts, hlexes, hr⟩ := hfirst
    obtain ⟨tss, hall, hparts⟩ := ih
    exact ⟨ts :: tss, .cons hlexes hall, .cons hr hparts⟩

/-- Texts that are read make an array with commas between them. There may be none. -/
theorem Reads.array {texts : List (List Char)} {sources : List Source}
    (h : List.Forall₂ Reads texts sources) :
    Reads ('[' :: (List.intercalate [','] texts ++ [']'])) (.array sources) := by
  have hopen : Lexes ['['] [.openBracket] := lexes_token (by decide) fun _ => rfl
  have hclose : Lexes [']'] [.closeBracket] := lexes_token (by decide) fun _ => rfl
  obtain ⟨tss, hlexes, hassembles⟩ := exists_tokens h
  rw [← List.singleton_append]
  -- An empty container has no first part: its bracket closes where that would begin.
  cases hlexes with
  | nil =>
    cases hassembles
    refine ⟨_, hopen.append (Lexes.nil.append hclose), ?_⟩
    intro frames more
    simp [assemble?, assemble?.begin?]
  | cons hfirst hlater =>
    obtain _ | ⟨hsource, hsources⟩ := hassembles
    rw [Text.intercalate_cons]
    refine ⟨_, hopen.append ((hfirst.append (Lexes.behindCommas hlater)).append hclose), ?_⟩
    intro frames more
    have hbegin (ts : List Token) : assemble? .value frames (.openBracket :: ts) =
        assemble? .itemOrClose frames ts := by simp [assemble?, assemble?.begin?]
    simp only [List.append_assoc, List.cons_append, List.nil_append]
    rw [hbegin, hsource.itemOrClose]
    exact assemble?_items hsources _ [] frames more

/-- Members that are read make an object with commas between them. Names may be repeated. -/
theorem Reads.object {texts : List (List Char)} {members : List (Option String × Source)}
    (h : List.Forall₂ ReadsMember texts members) :
    Reads ('\x7b' :: (List.intercalate [','] texts ++ ['\x7d'])) (.object members) := by
  have hopen : Lexes ['\x7b'] [.openBrace] := lexes_token (by decide) fun _ => rfl
  have hclose : Lexes ['\x7d'] [.closeBrace] := lexes_token (by decide) fun _ => rfl
  obtain ⟨tss, hlexes, hassembles⟩ := exists_tokens h
  rw [← List.singleton_append]
  cases hlexes with
  | nil =>
    cases hassembles
    refine ⟨_, hopen.append (Lexes.nil.append hclose), ?_⟩
    intro frames more
    simp [assemble?, assemble?.begin?]
  | cons hfirst hlater =>
    obtain _ | ⟨⟨us, rfl, hsource⟩, hmembers⟩ := hassembles
    rw [Text.intercalate_cons]
    refine ⟨_, hopen.append ((hfirst.append (Lexes.behindCommas hlater)).append hclose), ?_⟩
    intro frames more
    have hbegin (name : Option String) (ts : List Token) :
        assemble? .value frames (.openBrace :: .string name :: .colon :: ts) =
          assemble? .value (.members [] name :: frames) ts := by
      simp [assemble?, assemble?.begin?]
    simp only [List.append_assoc, List.cons_append, List.nil_append]
    rw [hbegin, hsource]
    exact assemble?_members hmembers _ _ [] frames more

mutual

/-- The value as its text has it. -/
def Value.source : Value → Source
  | .null => .null
  | .boolean b => .boolean b
  | .integer n => .number (some (.integer n))
  | .float x => .number (some (.float x))
  | .string text => .string (some text)
  | .array items => .array (itemSources items)
  | .object members => .object (memberSources members)

def Value.itemSources : List Value → List Source
  | [] => []
  | item :: items => source item :: itemSources items

def Value.memberSources : List (String × Value) → List (Option String × Source)
  | [] => []
  | (name, value) :: members => (some name, source value) :: memberSources members

end

@[simp]
theorem Value.source_string (text : String) : (Value.string text).source = .string (some text) :=
  rfl

@[simp]
theorem Value.source_array (items : List Value) :
    (Value.array items).source = .array (items.map Value.source) := by
  have hitems : Value.itemSources items = items.map Value.source := by
    induction items with
    | nil => rfl
    | cons item items ih => rw [Value.itemSources, ih, List.map_cons]
  rw [Value.source, hitems]

@[simp]
theorem Value.source_object (members : List (String × Value)) :
    (Value.object members).source = .object (members.map fun m => (some m.1, m.2.source)) := by
  have hmembers : Value.memberSources members = members.map fun m => (some m.1, m.2.source) := by
    induction members with
    | nil => rfl
    | cons m members ih => rw [Value.memberSources, ih, List.map_cons]
  rw [Value.source, hmembers]

private theorem Value.renderItems_eq_map (items : List Value) :
    Value.renderItems items = items.map Value.render := by
  induction items with
  | nil => rfl
  | cons item items ih => rw [Value.renderItems, ih, List.map_cons]

private theorem Value.renderMembers_eq_map (members : List (String × Value)) :
    Value.renderMembers members =
      members.map fun m => Value.renderString m.1 ++ ":" ++ m.2.render := by
  induction members with
  | nil => rfl
  | cons m members ih => rw [Value.renderMembers, ih, List.map_cons]

/-- The text of the value is read as the value. -/
def Value.ReadsBack (value : Value) : Prop := Reads value.render.toList value.source

/-- A value that is read back is read back from its rendered text as a whole. -/
theorem Value.ReadsBack.ofText? {value : Value} (h : value.ReadsBack) :
    Source.ofText? value.render = some value.source :=
  Reads.ofText? h

/-- The null value is read back. -/
theorem Value.readsBack_null : Value.null.ReadsBack := by
  have hlexes : Lexes ['n', 'u', 'l', 'l'] [.atom .null] := lexes_token (by decide) fun _ => rfl
  refine ⟨_, hlexes, ?_⟩
  intro frames more
  simp [assemble?, assemble?.begin?, Value.source]

/-- Every string is read back, whatever characters it holds. -/
theorem Value.readsBack_string (text : String) : (Value.string text).ReadsBack := by
  rw [Value.ReadsBack, Value.render, Value.source]
  exact reads_string text

/-- An array is read back if all its items are. -/
theorem Value.readsBack_array {items : List Value} (h : ∀ item ∈ items, item.ReadsBack) :
    (Value.array items).ReadsBack := by
  have hitems : List.Forall₂ Reads (items.map fun item => item.render.toList)
      (items.map Value.source) := by
    rw [List.forall₂_map_left_iff, List.forall₂_map_right_iff, List.forall₂_same]
    exact h
  have hread := Reads.array hitems
  rw [Value.ReadsBack, Value.source_array, Value.render, Value.renderItems_eq_map]
  simpa [Function.comp_def] using hread

/-- An object is read back if the values of all its members are. Nothing is asked of its names. -/
theorem Value.readsBack_object {members : List (String × Value)}
    (h : ∀ m ∈ members, m.2.ReadsBack) : (Value.object members).ReadsBack := by
  have hmembers : List.Forall₂ ReadsMember
      (members.map fun m => (Value.renderString m.1 ++ ":" ++ m.2.render).toList)
      (members.map fun m => (some m.1, m.2.source)) := by
    rw [List.forall₂_map_left_iff, List.forall₂_map_right_iff, List.forall₂_same]
    intro m hm
    have hmember := Reads.member (h m hm) m.1
    simpa using hmember
  have hread := Reads.object hmembers
  rw [Value.ReadsBack, Value.source_object, Value.render, Value.renderMembers_eq_map]
  simpa [Function.comp_def] using hread

end RuleVerify.Json
