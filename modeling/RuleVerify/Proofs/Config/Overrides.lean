import RuleVerify.Config
import RuleVerify.Proofs.Text.Words

namespace RuleVerify

namespace Delimiters

/-- The delimiters under their names, in the order in which they are checked. -/
def entries (d : Delimiters) : List (String × String) :=
  [("types", d.types), ("category", d.category), ("rules", d.rules)]

/-- The delimiter of this name is empty, and none before it is. -/
def IsFirstEmpty (d : Delimiters) (name : String) : Prop :=
  ∃ before after, d.entries = before ++ (name, "") :: after ∧ ∀ entry ∈ before, entry.2 ≠ ""

private theorem firstEmpty?_eq_find? (d : Delimiters) :
    d.firstEmpty? = (d.entries.find? fun entry => entry.2.isEmpty).map Prod.fst := by
  rw [firstEmpty?, entries]
  cases htypes : d.types.isEmpty <;> cases hcategory : d.category.isEmpty <;>
    cases hrules : d.rules.isEmpty <;> simp [htypes, hcategory, hrules]

/-- The check names the first empty delimiter in the order types, category, rules. -/
theorem firstEmpty?_eq_some_iff {d : Delimiters} {name : String} :
    d.firstEmpty? = some name ↔ d.IsFirstEmpty name := by
  rw [firstEmpty?_eq_find?, Option.map_eq_some_iff]
  constructor
  · rintro ⟨⟨other, value⟩, hfind, rfl⟩
    obtain ⟨hempty, before, after, hentries, hbefore⟩ := List.find?_eq_some_iff_append.mp hfind
    have hvalue : value = "" := by simpa using hempty
    subst hvalue
    refine ⟨before, after, hentries, ?_⟩
    simpa using hbefore
  · rintro ⟨before, after, hentries, hbefore⟩
    refine ⟨(name, ""), List.find?_eq_some_iff_append.mpr ⟨rfl, before, after, hentries, ?_⟩, rfl⟩
    simpa using hbefore

/-- The check passes exactly when no delimiter is empty. White space is enough. -/
theorem firstEmpty?_eq_none_iff {d : Delimiters} :
    d.firstEmpty? = none ↔ d.types ≠ "" ∧ d.category ≠ "" ∧ d.rules ≠ "" := by
  rw [firstEmpty?_eq_find?, Option.map_eq_none_iff, List.find?_eq_none]
  simp [entries]

/-- Each delimiter that is overridden, and the others as they are. -/
def overridden (d : Delimiters) (lookup : String → Option String) : Delimiters where
  types := (lookup Config.typesName).getD d.types
  category := (lookup Config.categoryName).getD d.category
  rules := (lookup Config.rulesName).getD d.rules

end Delimiters

namespace Config

variable {base c : Config} {lookup first second : String → Option String}

/-- The overrides of `second`, and under them those of `first`. -/
def layered (first second : String → Option String) : String → Option String :=
  fun name => (second name).or (first name)

/-- The identifiers are what stands between the semicolons of the text, trimmed, where that is not
    white space only. -/
def Lists (text : String) (identifiers : List String) : Prop :=
  ∃ pieces : List (List Char), (∀ piece ∈ pieces, ';' ∉ piece) ∧
    List.intercalate [';'] pieces = text.toList ∧
    identifiers = ((pieces.map Text.trim).filter (· ≠ [])).map String.ofList

/-- The text is the word of a truth value, with white space around it. -/
def Spells (text : String) (b : Bool) : Prop :=
  Text.trim text.toList = (if b then "true" else "false").toList

/-- Every setting of the second configuration is the override of the setting, if there is one, and
    otherwise the setting of the first. -/
structure Overridden (base : Config) (lookup : String → Option String) (c : Config) : Prop where
  delimiters : c.delimiters = base.delimiters.overridden lookup
  libraries_eq : lookup librariesName = none → c.libraries = base.libraries
  lists : ∀ text, lookup librariesName = some text → Lists text c.libraries
  confirm_eq : lookup confirmName = none → c.alertsAutoConfirm = base.alertsAutoConfirm
  spells : ∀ text, lookup confirmName = some text → Spells text c.alertsAutoConfirm

/-- The override of the confirmation, if there is one, is a truth value. -/
def ConfirmReadable (lookup : String → Option String) : Prop :=
  ∀ text, lookup confirmName = some text → ∃ b, Spells text b

/-- What is wrong with overrides: the confirmation before anything else, and of the delimiters that
    are empty the first. -/
inductive Refused (base : Config) (lookup : String → Option String) : Error → Prop where
  | confirm {text : String} (htext : lookup confirmName = some text)
      (hword : ∀ b, ¬ Spells text b) :
      Refused base lookup
        (.config ("TRUST_ALERTS_AUTO_CONFIRM must be 'true' or 'false', got '" ++ text ++ "'"))
  | delimiter {name : String} (hconfirm : ConfirmReadable lookup)
      (hempty : (base.delimiters.overridden lookup).IsFirstEmpty name) :
      Refused base lookup (.config ("the " ++ name ++ " delimiter must not be empty"))

/-- The identifiers that are read from a text are those that it lists. -/
theorem lists_readLibraries (text : String) : Lists text (readLibraries text) := by
  refine ⟨text.toList.splitOn ';', ?_, List.intercalate_splitOn ';', ?_⟩
  · intro piece hmem hsemicolon
    rw [List.splitOn_eq_splitOnP] at hmem
    have hnot := Text.not_of_mem_splitOnP hmem hsemicolon
    simp at hnot
  · rw [readLibraries]
    congr 2
    funext piece
    cases piece <;> rfl

/-- A truth value is read from its own word only, with any white space around it. -/
theorem readConfirm_eq_ok_iff {text : String} {b : Bool} :
    readConfirm text = .ok b ↔ Spells text b := by
  simp only [readConfirm, Spells]
  by_cases htrue : Text.trim text.toList = "true".toList
  · rw [if_pos htrue, htrue]
    cases b <;> simp
  · rw [if_neg htrue]
    by_cases hfalse : Text.trim text.toList = "false".toList
    · rw [if_pos hfalse, hfalse]
      cases b <;> simp
    · rw [if_neg hfalse]
      cases b with
      | true => exact ⟨nofun, fun hspells => absurd hspells htrue⟩
      | false => exact ⟨nofun, fun hspells => absurd hspells hfalse⟩

/-- Every other text is refused, and the error repeats it as it is. -/
theorem readConfirm_eq_error_iff {text : String} {e : Error} :
    readConfirm text = .error e ↔ (∀ b, ¬ Spells text b) ∧ e = (Fault.confirmValue text).error := by
  simp only [← readConfirm_eq_ok_iff, readConfirm]
  split
  · simp
  · split <;> simp [eq_comm]

/-- The confirmation that overrides leave, or why there is none. -/
def overriddenConfirm (base : Config) (lookup : String → Option String) : Except Error Bool :=
  match lookup confirmName with
  | some text => readConfirm text
  | none => .ok base.alertsAutoConfirm

def overriddenLibraries (base : Config) (lookup : String → Option String) : List String :=
  ((lookup librariesName).map readLibraries).getD base.libraries

private theorem overriddenConfirm_eq_ok_iff {b : Bool} : base.overriddenConfirm lookup = .ok b ↔
    (lookup confirmName = none → b = base.alertsAutoConfirm) ∧
      ∀ text, lookup confirmName = some text → Spells text b := by
  unfold overriddenConfirm
  cases hlookup : lookup confirmName with
  | none => simp [eq_comm]
  | some text => simp [readConfirm_eq_ok_iff]

private theorem overriddenConfirm_eq_error_iff {e : Error} :
    base.overriddenConfirm lookup = .error e ↔
    ∃ text, lookup confirmName = some text ∧ (∀ b, ¬ Spells text b) ∧
      e = (Fault.confirmValue text).error := by
  unfold overriddenConfirm
  cases hlookup : lookup confirmName with
  | none => simp
  | some text => simp [readConfirm_eq_error_iff]

/-- The truth value can be resolved unless it is overridden by an unreadable text. -/
theorem exists_overriddenConfirm_iff :
    (∃ b, base.overriddenConfirm lookup = .ok b) ↔ ConfirmReadable lookup := by
  unfold overriddenConfirm ConfirmReadable
  cases hlookup : lookup confirmName with
  | none => simp
  | some text => simp [readConfirm_eq_ok_iff]

private theorem validate_eq_ok_iff {c' : Config} :
    c.validate = .ok c' ↔ c' = c ∧ c.delimiters.firstEmpty? = none := by
  unfold validate
  cases hempty : c.delimiters.firstEmpty? <;> simp [eq_comm]

private theorem validate_eq_error_iff {e : Error} : c.validate = .error e ↔
    ∃ name, c.delimiters.firstEmpty? = some name ∧ e = (Fault.emptyDelimiter name).error := by
  unfold validate
  cases hempty : c.delimiters.firstEmpty? <;> simp [eq_comm]

private theorem withOverrides_eq (base : Config) (lookup : String → Option String) :
    base.withOverrides lookup = (base.overriddenConfirm lookup).bind fun confirm =>
      validate ⟨base.delimiters.overridden lookup, base.overriddenLibraries lookup, confirm⟩ := by
  unfold withOverrides overriddenConfirm
  cases lookup confirmName <;> rfl

/-- A resolved configuration takes every setting from its override or its base, and no delimiter of
    it is empty. The delimiters of the base may be empty where they are overridden. -/
theorem withOverrides_eq_ok_iff : base.withOverrides lookup = .ok c ↔
    base.overriddenConfirm lookup = .ok c.alertsAutoConfirm ∧
      c.delimiters = base.delimiters.overridden lookup ∧
      c.libraries = base.overriddenLibraries lookup ∧ c.delimiters.firstEmpty? = none := by
  rw [withOverrides_eq]
  cases hconfirm : base.overriddenConfirm lookup with
  | error e => simp [Except.bind]
  | ok confirm =>
    rw [Except.bind, validate_eq_ok_iff, Except.ok.injEq]
    obtain ⟨delimiters, libraries, b⟩ := c
    simp only [Config.mk.injEq]
    constructor
    · rintro ⟨⟨rfl, rfl, rfl⟩, hempty⟩
      exact ⟨rfl, rfl, rfl, hempty⟩
    · rintro ⟨rfl, rfl, rfl, hempty⟩
      exact ⟨⟨rfl, rfl, rfl⟩, hempty⟩

/-- An unreadable truth value is the error even where a delimiter is empty. -/
theorem withOverrides_eq_error_iff {e : Error} : base.withOverrides lookup = .error e ↔
    base.overriddenConfirm lookup = .error e ∨
      (∃ b, base.overriddenConfirm lookup = .ok b) ∧
        ∃ name, (base.delimiters.overridden lookup).firstEmpty? = some name ∧
          e = (Fault.emptyDelimiter name).error := by
  rw [withOverrides_eq]
  cases hconfirm : base.overriddenConfirm lookup with
  | error e => simp [Except.bind]
  | ok confirm => simp [Except.bind, validate_eq_error_iff]

/-- There is a configuration exactly when the truth value can be read and no delimiter ends up
    empty. -/
theorem exists_withOverrides_iff : (∃ c, base.withOverrides lookup = .ok c) ↔
    ConfirmReadable lookup ∧ (base.delimiters.overridden lookup).firstEmpty? = none := by
  rw [← exists_overriddenConfirm_iff]
  constructor
  · rintro ⟨c, hc⟩
    obtain ⟨hconfirm, hdelimiters, -, hempty⟩ := withOverrides_eq_ok_iff.mp hc
    exact ⟨⟨c.alertsAutoConfirm, hconfirm⟩, hdelimiters ▸ hempty⟩
  · rintro ⟨⟨b, hconfirm⟩, hempty⟩
    exact ⟨⟨base.delimiters.overridden lookup, base.overriddenLibraries lookup, b⟩,
      withOverrides_eq_ok_iff.mpr ⟨hconfirm, rfl, rfl, hempty⟩⟩

/-- Each setting of a resolved configuration has its own origin. -/
theorem overridden_of_withOverrides (hc : base.withOverrides lookup = .ok c) :
    Overridden base lookup c := by
  obtain ⟨hconfirm, hdelimiters, hlibraries, -⟩ := withOverrides_eq_ok_iff.mp hc
  obtain ⟨hkept, hspells⟩ := overriddenConfirm_eq_ok_iff.mp hconfirm
  refine ⟨hdelimiters, ?_, ?_, hkept, hspells⟩
  · intro hnone
    rw [hlibraries, overriddenLibraries, hnone]
    rfl
  · intro text htext
    rw [hlibraries, overriddenLibraries, htext]
    exact lists_readLibraries text

/-- Resolving fails with the reasons of a refusal and with no other. -/
theorem withOverrides_eq_error_iff_refused {e : Error} :
    base.withOverrides lookup = .error e ↔ Refused base lookup e := by
  rw [withOverrides_eq_error_iff, overriddenConfirm_eq_error_iff, exists_overriddenConfirm_iff]
  simp only [Delimiters.firstEmpty?_eq_some_iff]
  constructor
  · rintro (⟨text, htext, hword, rfl⟩ | ⟨hreadable, name, hempty, rfl⟩)
    · exact .confirm htext hword
    · exact .delimiter hreadable hempty
  · rintro (⟨htext, hword⟩ | ⟨hreadable, hempty⟩)
    · exact Or.inl ⟨_, htext, hword, rfl⟩
    · exact Or.inr ⟨hreadable, _, hempty, rfl⟩

private theorem overridden_overridden (d : Delimiters) (first second : String → Option String) :
    (d.overridden first).overridden second = d.overridden (layered first second) := by
  simp [Delimiters.overridden, layered, Option.getD_or]

/-- Overrides on top of a resolved configuration are overrides of its base. -/
theorem withOverrides_layered (second : String → Option String)
    (hfirst : base.withOverrides first = .ok c) :
    c.withOverrides second = base.withOverrides (layered first second) := by
  obtain ⟨hconfirm, hdelimiters, hlibraries, -⟩ := withOverrides_eq_ok_iff.mp hfirst
  have hconfirms : c.overriddenConfirm second = base.overriddenConfirm (layered first second) := by
    cases hsecond : second confirmName with
    | none =>
      simpa [overriddenConfirm, layered, hsecond] using hconfirm.symm
    | some text => simp [overriddenConfirm, layered, hsecond]
  have hnames : c.overriddenLibraries second = base.overriddenLibraries (layered first second) := by
    rw [overriddenLibraries, hlibraries]
    cases hsecond : second librariesName <;> simp [overriddenLibraries, layered, hsecond]
  rw [withOverrides_eq, withOverrides_eq, hconfirms, hnames, hdelimiters, overridden_overridden]

/-- The same overrides again change nothing, also where they are refused. -/
theorem withOverrides_twice (base : Config) (lookup : String → Option String) :
    (base.withOverrides lookup >>= fun c => c.withOverrides lookup) =
      base.withOverrides lookup := by
  cases hbase : base.withOverrides lookup with
  | error e => rfl
  | ok c =>
    have htwice := withOverrides_layered lookup hbase
    have hlookup : layered lookup lookup = lookup := by
      funext name
      simp [layered]
    rw [hlookup, hbase] at htwice
    exact htwice

/-- Overrides on top of a configuration that came from overrides are the overrides of both in one,
    and the same overrides again change nothing. They are accepted exactly when the confirmation is
    a truth value or is not overridden and no delimiter is empty in the end, whether it was
    overridden or not; the reason of a refusal is the confirmation before a delimiter, and the first
    empty one of these. In an accepted configuration each setting is its override, where there is
    one, and else the setting as it was. -/
theorem overrides_resolve (base : Config) (lookup : String → Option String) :
    (∀ second c, base.withOverrides lookup = .ok c →
      c.withOverrides second = base.withOverrides (layered lookup second)) ∧
    (base.withOverrides lookup >>= fun c => c.withOverrides lookup) = base.withOverrides lookup ∧
    ((∃ c, base.withOverrides lookup = .ok c) ↔
      ConfirmReadable lookup ∧ (base.delimiters.overridden lookup).types ≠ "" ∧
        (base.delimiters.overridden lookup).category ≠ "" ∧
        (base.delimiters.overridden lookup).rules ≠ "") ∧
    (∀ e, base.withOverrides lookup = .error e ↔ Refused base lookup e) ∧
    ∀ c, base.withOverrides lookup = .ok c → Overridden base lookup c := by
  refine ⟨?_, withOverrides_twice base lookup, ?_, ?_, ?_⟩
  · intro second c hc
    exact withOverrides_layered second hc
  · rw [exists_withOverrides_iff, Delimiters.firstEmpty?_eq_none_iff]
  · intro e
    exact withOverrides_eq_error_iff_refused
  · intro c hc
    exact overridden_of_withOverrides hc

/-- An override repairs the delimiter that is empty, and another one breaks it again. -/
example :
    let base : Config := ⟨⟨"|&|", ":  ", ""⟩, [], false⟩
    let repair := fun name => if name = rulesName then some ";" else none
    let breaks := fun name => if name = rulesName then some "" else none
    base.withOverrides repair = .ok ⟨⟨"|&|", ":  ", ";"⟩, [], false⟩ ∧
      base.withOverrides (layered repair breaks) = .error (Fault.emptyDelimiter "rules").error := by
  exact ⟨rfl, rfl⟩

end Config

end RuleVerify
