import Mathlib.Data.List.DropRight
import Mathlib.Data.List.Forall2
import Mathlib.Data.List.Induction
import RuleVerify.Command.Line
import RuleVerify.Proofs.Readers

namespace RuleVerify

/-- Of several values of a name the last one counts. -/
theorem Values.get?_ofList (entries : List (String × String)) (name : String) :
    (ofList entries).get? name =
      ((entries.filter fun entry => entry.1 = name).getLast?).map Prod.snd := by
  induction entries using List.reverseRecOn with
  | nil => rfl
  | append_singleton entries entry ih =>
    have hinsert : ofList (entries ++ [entry]) = (ofList entries).insert entry.1 entry.2 := by
      rw [ofList, List.foldl_append]
      rfl
    rw [hinsert, get?_insert, List.filter_append]
    by_cases hname : entry.1 = name
    · simp [hname]
    · simp [hname, Ne.symm hname, ih]

namespace Command

variable {known : Known} {g : Given} {name value : String} {argument : String}
  {arguments rest : List String} {text : List Char}

/-- A row of arguments begins with these options, and has the rest behind them. -/
inductive Written (known : Known) : List String → Given → List String → Prop
  | nil : Written known [] .none []
  | dashes : Written known ["--"] .none []
  | stop {argument : String} {arguments : List String} (hplain : isOption argument.toList = false) :
      Written known (argument :: arguments) .none (argument :: arguments)
  | flag {name : String} {arguments rest : List String} {g : Given} (hname : '=' ∉ name.toList)
      (hknown : name ∈ known.flags) (h : Written known arguments g rest) :
      Written known (("--" ++ name) :: arguments) (g.consFlag name) rest
  | attached {name : String} {arguments rest : List String} {g : Given} (value : String)
      (hname : '=' ∉ name.toList) (hknown : name ∈ known.valued)
      (h : Written known arguments g rest) :
      Written known (("--" ++ name ++ "=" ++ value) :: arguments) (g.consValue name value) rest
  | separate {name value : String} {arguments rest : List String} {g : Given}
      (hname : '=' ∉ name.toList) (hknown : name ∈ known.valued)
      (hplain : isOption value.toList = false) (h : Written known arguments g rest) :
      Written known (("--" ++ name) :: value :: arguments) (g.consValue name value) rest

private theorem splitEquals_append {key : List Char} (hkey : '=' ∉ key) (value : List Char) :
    splitEquals (key ++ '=' :: value) = (key, some value) := by
  have hpass : ∀ c ∈ key, decide (c ≠ '=') = true := by
    intro c hc
    rw [decide_eq_true_iff]
    rintro rfl
    exact hkey hc
  rw [splitEquals, List.dropWhile_append_of_pos hpass, List.takeWhile_append_of_pos hpass]
  simp

private theorem splitEquals_of_not_mem {cs : List Char} (hcs : '=' ∉ cs) :
    splitEquals cs = (cs, none) := by
  have hdrop : cs.dropWhile (· ≠ '=') = [] := by
    rw [List.dropWhile_eq_nil_iff]
    intro c hc
    rw [decide_eq_true_iff]
    rintro rfl
    exact hcs hc
  rw [splitEquals, hdrop]

/-- The key is what stands before the first equals sign. The value may hold others. -/
theorem splitEquals_eq_some_iff {cs key value : List Char} :
    splitEquals cs = (key, some value) ↔ cs = key ++ '=' :: value ∧ '=' ∉ key := by
  constructor
  · intro hsplit
    by_cases hmem : '=' ∈ cs
    · obtain ⟨before, behind, rfl, hbefore⟩ := List.eq_append_cons_of_mem hmem
      rw [splitEquals_append hbefore] at hsplit
      cases hsplit
      exact ⟨rfl, hbefore⟩
    · rw [splitEquals_of_not_mem hmem] at hsplit
      cases hsplit
  · rintro ⟨rfl, hkey⟩
    exact splitEquals_append hkey value

/-- A text without an equals sign is all key. -/
theorem splitEquals_eq_none_iff {cs key : List Char} :
    splitEquals cs = (key, none) ↔ key = cs ∧ '=' ∉ cs := by
  constructor
  · intro hsplit
    by_cases hmem : '=' ∈ cs
    · obtain ⟨before, behind, rfl, hbefore⟩ := List.eq_append_cons_of_mem hmem
      rw [splitEquals_append hbefore] at hsplit
      cases hsplit
    · rw [splitEquals_of_not_mem hmem] at hsplit
      cases hsplit
      exact ⟨rfl, hmem⟩
  · rintro ⟨rfl, hkey⟩
    exact splitEquals_of_not_mem hkey

private theorem eq_dashes_append {text : List Char} (htext : argument.toList = '-' :: '-' :: text) :
    argument = "--" ++ String.ofList text := by
  apply String.toList_injective
  simp [htext]

/-- Options that could be read were written in one of the forms that an option has. -/
theorem written_of_readOptions? (hread : readOptions? known arguments = some (g, rest)) :
    Written known arguments g rest := by
  fun_induction readOptions? known arguments generalizing g rest with
  | case1 =>
    cases hread
    exact .nil
  | case2 argument arguments hdashes hlast =>
    cases hread
    rw [eq_dashes_append hdashes, List.isEmpty_iff.mp hlast]
    exact .dashes
  | case5 argument arguments text _ htext key value hsplit name hknown hvalue =>
    rename_i ih
    simp only [Option.map_eq_some_iff, Prod.mk.injEq, Prod.exists] at hread
    obtain ⟨g, rest, hread, rfl, rfl⟩ := hread
    obtain rfl : value = none := by simpa using hvalue
    obtain ⟨rfl, hfree⟩ := splitEquals_eq_none_iff.mp hsplit
    rw [eq_dashes_append htext]
    exact .flag (by simpa using hfree) hknown (ih hread)
  | case6 argument text _ htext key name _ hknown value arguments hsplit =>
    rename_i ih
    simp only [Option.map_eq_some_iff, Prod.mk.injEq, Prod.exists] at hread
    obtain ⟨g, rest, hread, rfl, rfl⟩ := hread
    obtain ⟨rfl, hfree⟩ := splitEquals_eq_some_iff.mp hsplit
    have hwritten : argument = "--" ++ name ++ "=" ++ String.ofList value := by
      apply String.toList_injective
      simp [htext, name]
    rw [hwritten]
    exact .attached _ (by simpa [name] using hfree) hknown (ih hread)
  | case8 argument text _ htext key name _ hknown value arguments hplain hsplit =>
    rename_i ih
    simp only [Option.map_eq_some_iff, Prod.mk.injEq, Prod.exists] at hread
    obtain ⟨g, rest, hread, rfl, rfl⟩ := hread
    obtain ⟨rfl, hfree⟩ := splitEquals_eq_none_iff.mp hsplit
    rw [eq_dashes_append htext]
    exact .separate (by simpa using hfree) hknown (by simpa using hplain) (ih hread)
  | case12 argument arguments _ _ hplain =>
    cases hread
    exact .stop (by simpa using hplain)
  -- What is left has no reading: unknown options, flags with a value and values that are missing.
  | case3 | case4 | case7 | case9 | case10 | case11 => cases hread

/-- Options stop in front of an argument that is none. -/
theorem Written.plain_of_cons (h : Written known arguments g (argument :: rest)) :
    isOption argument.toList = false := by
  generalize hbehind : argument :: rest = behind at h
  induction h with
  | nil | dashes => cases hbehind
  | stop hplain =>
    cases hbehind
    exact hplain
  | flag _ _ _ ih | attached _ _ _ _ ih | separate _ _ _ _ ih => exact ih hbehind

/-- What an argument, together with the next one, gives to an option. -/
def givenTexts (name argument : String) (next : Option String) : List String :=
  if argument = "--" ++ name then next.toList
  else ((("--" ++ name ++ "=").toList.isPrefixOf? argument.toList).map String.ofList).toList

/-- The texts that a row of arguments gives to an option: what stands behind `--name=`, or the
    argument that follows `--name`. -/
def optionTexts (name : String) : List String → List String
  | [] => []
  | argument :: arguments =>
    givenTexts name argument arguments.head? ++ optionTexts name arguments

private theorem givenTexts_of_plain (hplain : isOption argument.toList = false)
    (next : Option String) :
    givenTexts name argument next = [] := by
  have hdashes (text : List Char) : argument.toList ≠ '-' :: '-' :: text := by
    intro htext
    simp [htext, isOption] at hplain
  have hname : argument ≠ "--" ++ name := by
    rintro rfl
    exact hdashes name.toList (by simp)
  have hnone : ("--" ++ name ++ "=").toList.isPrefixOf? argument.toList = none := by
    rw [Option.eq_none_iff_forall_ne_some]
    intro text htext
    rw [List.isPrefixOf?_eq_some_iff_append_eq] at htext
    exact hdashes (name.toList ++ '=' :: text) (by simp [← htext])
  rw [givenTexts, if_neg hname, hnone]
  rfl

private theorem givenTexts_name {other : String} (hother : '=' ∉ other.toList)
    (next : Option String) :
    givenTexts name ("--" ++ other) next = if other = name then next.toList else [] := by
  have hnone : ("--" ++ name ++ "=").toList.isPrefixOf? ("--" ++ other).toList = none := by
    rw [Option.eq_none_iff_forall_ne_some]
    intro text htext
    rw [List.isPrefixOf?_eq_some_iff_append_eq] at htext
    apply hother
    have htail : other.toList = name.toList ++ '=' :: text := by simpa using htext.symm
    simp [htail]
  have hsame : "--" ++ other = "--" ++ name ↔ other = name := by
    simp [← String.toList_inj]
  simp only [givenTexts, hsame, hnone]
  rfl

private theorem givenTexts_attached {other : String} (hname : '=' ∉ name.toList)
    (hother : '=' ∉ other.toList) (value : String) (next : Option String) :
    givenTexts name ("--" ++ other ++ "=" ++ value) next =
      if other = name then [value] else [] := by
  have hlonger : "--" ++ other ++ "=" ++ value ≠ "--" ++ name := by
    intro hsame
    apply hname
    have htail : name.toList = other.toList ++ '=' :: value.toList := by
      simpa [← String.toList_inj] using hsame.symm
    simp [htail]
  rw [givenTexts, if_neg hlonger]
  split
  · rename_i hsame
    subst hsame
    have hfront : ("--" ++ other ++ "=").toList.isPrefixOf?
        ("--" ++ other ++ "=" ++ value).toList = some value.toList := by
      rw [List.isPrefixOf?_eq_some_iff_append_eq, ← String.toList_append]
    simp
  · rename_i hdifferent
    have hnone : ("--" ++ name ++ "=").toList.isPrefixOf?
        ("--" ++ other ++ "=" ++ value).toList = none := by
      rw [Option.eq_none_iff_forall_ne_some]
      intro text htext
      rw [List.isPrefixOf?_eq_some_iff_append_eq] at htext
      -- The first equals sign ends both names.
      have hsame : name.toList ++ '=' :: text = other.toList ++ '=' :: value.toList := by
        simpa using htext
      have hsplit := splitEquals_append hother value.toList
      rw [← hsame, splitEquals_append hname] at hsplit
      exact hdifferent (String.toList_injective (Prod.mk.inj hsplit).1.symm)
    rw [hnone]
    rfl

private theorem Given.values_consValue (g : Given) (other value name : String) :
    (g.consValue other value).values name =
      (if other = name then [value] else []) ++ g.values name := by
  by_cases hsame : other = name <;> simp [Given.values, consValue, hsame]

/-- Whatever the other options are, the texts of an option are found where they are written. -/
theorem optionTexts_of_written (hname : '=' ∉ name.toList) (hflag : name ∉ known.flags)
    (h : Written known arguments g rest) :
    optionTexts name arguments = g.values name ++ optionTexts name rest := by
  have hempty : '=' ∉ "".toList := by decide
  induction h with
  | nil | stop => rfl
  | dashes =>
    have hdashes : givenTexts name ("--" ++ "") none = [] := by
      rw [givenTexts_name hempty]
      split <;> rfl
    simpa [optionTexts, Given.values, Given.none] using hdashes
  | flag hother hknown _ ih =>
    have hdifferent : ¬ _ = name := fun hsame => hflag (hsame ▸ hknown)
    rw [optionTexts, givenTexts_name hother, if_neg hdifferent, ih]
    rfl
  | attached value hother hknown _ ih =>
    rw [optionTexts, givenTexts_attached hname hother, ih, Given.values_consValue,
      List.append_assoc]
  | separate hother hknown hplain _ ih =>
    -- The value is no option, so it gives nothing in an argument of its own.
    rw [optionTexts, givenTexts_name hother, optionTexts, givenTexts_of_plain hplain, ih,
      Given.values_consValue, List.append_assoc]
    rfl

private theorem Written.values_eq_nil (hname : name ∉ known.valued)
    (h : Written known arguments g rest) :
    g.values name = [] := by
  induction h with
  | nil | dashes | stop => rfl
  | flag _ _ _ ih => exact ih
  | attached _ _ hknown _ ih | separate _ hknown _ _ ih =>
    have hdifferent : ¬ _ = name := fun hsame => hname (hsame ▸ hknown)
    rw [Given.values_consValue, if_neg hdifferent, ih, List.nil_append]

/-- A well-formed command line has a command between options that are known there. -/
theorem exists_command_of_ofArguments? {line : Line}
    (hline : Line.ofArguments? arguments = some line) :
    ∃ before command following own meaning behind,
      Written shared arguments before (command :: following) ∧
        command? command = some (own, meaning) ∧
        Written (shared.and own) following behind [] ∧ meaning behind = some line.action := by
  rw [Line.ofArguments?, Option.bind_eq_bind, Option.bind_eq_some_iff] at hline
  obtain ⟨⟨before, rest⟩, hbefore, hline⟩ := hline
  cases rest with
  | nil => cases hline
  | cons command following =>
    simp only [Option.bind_eq_bind, Option.bind_eq_some_iff] at hline
    obtain ⟨⟨own, meaning⟩, hcommand, ⟨behind, rest⟩, hbehind, hline⟩ := hline
    split at hline
    · cases hline
    · rename_i hwhole
      simp only [Option.bind_eq_some_iff, Option.pure_def, Option.some.injEq] at hline
      obtain ⟨first, -, second, -, action, haction, rfl⟩ := hline
      obtain rfl : rest = [] := by
        simp only [Bool.or_eq_true, not_or, Bool.not_eq_true'] at hwhole
        simpa using hwhole.1.1
      exact ⟨before, command, following, own, meaning, behind, written_of_readOptions? hbefore,
        hcommand, written_of_readOptions? hbehind, haction⟩

/-- A pair can be read from exactly one text, and from no text without an equals sign. -/
theorem readPair?_eq_some_iff {text : String} {entry : String × String} :
    readPair? text = some entry ↔
      text = entry.1 ++ "=" ++ entry.2 ∧ '=' ∉ entry.1.toList := by
  obtain ⟨key, value⟩ := entry
  have htext : text = key ++ "=" ++ value ↔ text.toList = key.toList ++ '=' :: value.toList := by
    simp [← String.toList_inj]
  rw [htext, ← splitEquals_eq_some_iff, readPair?]
  split
  · rename_i front behind hsplit
    simp [hsplit, ← String.toList_inj]
  · rename_i front hsplit
    simp [hsplit]

/-- The values of a verification are the texts of its value options, each split at its first equals
    sign, in the order in which they are written. -/
theorem forall₂_optionTexts_value {line : Line} {rules : String} {category : Category}
    {values : List (String × String)} (hline : Line.ofArguments? arguments = some line)
    (haction : line.action = .verify rules category values) :
    List.Forall₂ (fun text entry => text = entry.1 ++ "=" ++ entry.2 ∧ '=' ∉ entry.1.toList)
      (optionTexts "value" arguments) values := by
  obtain ⟨before, command, following, own, meaning, behind, hbefore, hcommand, hbehind, hmeaning⟩ :=
    exists_command_of_ofArguments? hline
  have hvalue : '=' ∉ "value".toList := by decide
  have htexts : optionTexts "value" arguments = optionTexts "value" following := by
    rw [optionTexts_of_written hvalue (by decide) hbefore, hbefore.values_eq_nil (by decide),
      optionTexts, givenTexts_of_plain hbefore.plain_of_cons]
    rfl
  rw [haction] at hmeaning
  unfold command? at hcommand
  split at hcommand <;> cases hcommand
  case h_1 | h_2 | h_3 | h_4 => cases hmeaning
  case h_5 =>
    simp only [Option.bind_eq_bind, Option.bind_eq_some_iff, Option.pure_def, Option.some.injEq,
      Action.verify.injEq] at hmeaning
    obtain ⟨_, -, _, -, pairs, hpairs, -, -, rfl⟩ := hmeaning
    rw [htexts, optionTexts_of_written hvalue (by decide) hbehind, optionTexts, List.append_nil]
    exact (mapM_eq_some_iff.mp hpairs).imp fun _ _ hpair => readPair?_eq_some_iff.mp hpair
  case h_6 =>
    simp only [Option.bind_eq_bind, Option.bind_eq_some_iff, Option.pure_def, Option.some.injEq,
      reduceCtorEq, and_false, exists_const] at hmeaning

/-- A flag in front of other options is read before them. -/
theorem readOptions?_flag (hname : '=' ∉ name.toList) (hempty : name ≠ "")
    (hknown : name ∈ known.flags) :
    readOptions? known (("--" ++ name) :: arguments) =
      (readOptions? known arguments).map fun (g, rest) => (g.consFlag name, rest) := by
  obtain ⟨c, text, hchars⟩ : ∃ c text, name.toList = c :: text := by
    apply List.exists_cons_of_ne_nil
    simpa using hempty
  have hargument : ("--" ++ name).toList = '-' :: '-' :: c :: text := by simp [hchars]
  have hback : String.ofList (c :: text) = name := by rw [← hchars, String.ofList_toList]
  rw [readOptions?]
  simp only [hargument, splitEquals_of_not_mem (hchars ▸ hname), hback, if_pos hknown]
  rfl

/-- The flag for JSON may be put in front of a command line that lacks it. -/
theorem ofArguments?_json {line : Line} (hline : Line.ofArguments? arguments = some line)
    (hjson : line.json = false) :
    Line.ofArguments? ("--json" :: arguments) = some { line with json := true } := by
  rw [Line.ofArguments?, Option.bind_eq_bind, Option.bind_eq_some_iff] at hline
  obtain ⟨⟨before, rest⟩, hbefore, hline⟩ := hline
  have hread : readOptions? shared ("--json" :: arguments) =
      some (before.consFlag "json", rest) := by
    rw [← show "--" ++ "json" = "--json" from rfl,
      readOptions?_flag (by decide) (by decide) (by decide), hbefore]
    rfl
  rw [Line.ofArguments?, hread, Option.bind_eq_bind, Option.bind_some]
  cases rest with
  | nil => cases hline
  | cons command following =>
    simp only [Option.bind_eq_bind, Option.bind_eq_some_iff] at hline ⊢
    obtain ⟨⟨own, meaning⟩, hcommand, ⟨behind, rest⟩, hbehind, hline⟩ := hline
    refine ⟨_, hcommand, _, hbehind, ?_⟩
    split at hline
    · cases hline
    · rename_i hwhole
      simp only [Option.bind_eq_some_iff, Option.pure_def, Option.some.injEq] at hline
      obtain ⟨first, hfirst, second, hsecond, action, haction, rfl⟩ := hline
      obtain ⟨hbeforeFlags, hbehindFlags⟩ : before.flags = [] ∧ behind.flags = [] := by
        simpa using hjson
      have hrest : rest = [] := by
        simp only [Bool.or_eq_true, not_or, Bool.not_eq_true'] at hwhole
        simpa using hwhole.1.1
      rw [if_neg (by simp [Given.consFlag, hbeforeFlags, hbehindFlags, hrest])]
      simp only [Option.bind_eq_some_iff, Option.pure_def, Option.some.injEq]
      exact ⟨first, hfirst, second, hsecond, action, haction, by simp [Given.consFlag]⟩

end Command

end RuleVerify
