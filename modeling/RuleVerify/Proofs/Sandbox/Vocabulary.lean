import RuleVerify.Proofs.Config.Overrides
import RuleVerify.Proofs.Sandbox
import RuleVerify.Proofs.Text.Parts
import RuleVerify.Proofs.Text.Split

namespace RuleVerify

/-- White space has no case. -/
theorem Text.toLower_of_isBlank {c : Char} (hblank : isBlank c = true) : c.toLower = c := by
  unfold Char.toLower
  split
  · rename_i hupper
    obtain ⟨hfirst, hlast⟩ := hupper
    simp only [ge_iff_le, UInt32.le_iff_toNat_le] at hfirst hlast
    simp [isBlank, blankRanges, inRanges] at hblank
    simp at hfirst hlast
    omega
  · rfl

namespace Library

variable {cs spelling : List Char}

/-- The name of the library in any case. -/
def Spells (spelling : List Char) : Prop := Text.toLowerAscii spelling = "lodash".toList

/-- No spelling holds a character at which identifiers are cut or trimmed. -/
theorem Spells.letters (h : Spells spelling) :
    spelling ≠ [] ∧ ';' ∉ spelling ∧ ∀ c ∈ spelling, Text.isBlank c = false := by
  have hletter {c : Char} (hc : c ∈ spelling) : c.toLower ∈ "lodash".toList := by
    rw [← h]
    exact List.mem_map_of_mem hc
  refine ⟨?_, ?_, ?_⟩
  · rintro rfl
    cases h
  · intro hsemicolon
    exact absurd (hletter hsemicolon) (by decide)
  · intro c hc
    by_contra hblank
    rw [Bool.not_eq_false] at hblank
    have hmem := hletter hc
    rw [Text.toLower_of_isBlank hblank] at hmem
    have hnone : "lodash".toList.any Text.isBlank = false := by decide
    exact List.any_eq_false.mp hnone c hmem hblank

/-- A text holds the name in lower case exactly when it holds a spelling of it. -/
theorem infix_toLowerAscii_iff :
    "lodash".toList <:+: Text.toLowerAscii cs ↔ ∃ spelling, Spells spelling ∧ spelling <:+: cs := by
  rw [Text.toLowerAscii, List.infix_map_iff]
  constructor
  · rintro ⟨spelling, hinfix, hname⟩
    exact ⟨spelling, hname.symm, hinfix⟩
  · rintro ⟨spelling, hname, hinfix⟩
    exact ⟨spelling, hinfix, hname.symm⟩

/-- An identifier is known exactly when it holds the name, in any case and anywhere. -/
theorem isSome_resolve?_iff {identifier : String} :
    (resolve? identifier).isSome = true ↔
      "lodash".toList <:+: Text.toLowerAscii (Text.trim identifier.toList) := by
  simp only [resolve?, known]
  by_cases hword : Text.toLowerAscii (Text.trim identifier.toList) = []
  · simp [hword]
  · rw [if_neg (by simpa using hword), ← Text.occursIn_iff]
    have hname : lodash.name = "lodash" := rfl
    simp only [List.find?_cons, List.find?_nil, hname]
    cases Text.occursIn "lodash".toList (Text.toLowerAscii (Text.trim identifier.toList)) with
    | false => simp
    | true => simp

end Library

namespace Config

variable {base : Config} {lookup : String → Option String} {text : String}

/-- A part that is neither cut nor trimmed stands in an identifier when it stands in the text. -/
theorem exists_mem_readLibraries_iff {part : List Char} (hne : part ≠ []) (hcut : ';' ∉ part)
    (hnot : ∀ c ∈ part, Text.isBlank c = false) :
    (∃ identifier ∈ readLibraries text, part <:+: Text.trim identifier.toList) ↔
      part <:+: text.toList := by
  rw [Text.infix_iff_exists_piece hne hcut]
  constructor
  · rintro ⟨identifier, hmem, hinfix⟩
    obtain ⟨trimmed, htrimmed, rfl⟩ := List.mem_map.mp hmem
    obtain ⟨piece, hpiece, rfl⟩ := List.mem_map.mp (List.mem_filter.mp htrimmed).1
    rw [String.toList_ofList, Text.trim_trim, Text.infix_trim_iff hne hnot] at hinfix
    exact ⟨piece, hpiece, hinfix⟩
  · rintro ⟨piece, hpiece, hinfix⟩
    have htrim : part <:+: Text.trim piece := (Text.infix_trim_iff hne hnot).mpr hinfix
    have hkept : (!(Text.trim piece).isEmpty) = true := by
      rw [Bool.not_eq_true', List.isEmpty_eq_false_iff]
      intro hnil
      rw [hnil, List.infix_nil] at htrim
      exact hne htrim
    refine ⟨String.ofList (Text.trim piece), List.mem_map_of_mem (List.mem_filter.mpr
      ⟨List.mem_map_of_mem hpiece, hkept⟩), ?_⟩
    rwa [String.toList_ofList, Text.trim_trim]

/-- Whether an identifier names the library shows in the text before it is cut. -/
theorem any_readLibraries_iff (text : String) :
    ((readLibraries text).any fun identifier => (Library.resolve? identifier).isSome) = true ↔
      "lodash".toList <:+: Text.toLowerAscii text.toList := by
  simp only [List.any_eq_true, Library.isSome_resolve?_iff, Library.infix_toLowerAscii_iff]
  constructor
  · rintro ⟨identifier, hmem, spelling, h, hinfix⟩
    obtain ⟨hne, hcut, hnot⟩ := h.letters
    exact ⟨spelling, h, (exists_mem_readLibraries_iff hne hcut hnot).mp ⟨identifier, hmem, hinfix⟩⟩
  · rintro ⟨spelling, h, hinfix⟩
    obtain ⟨hne, hcut, hnot⟩ := h.letters
    obtain ⟨identifier, hmem, hidentifier⟩ :=
      (exists_mem_readLibraries_iff hne hcut hnot).mpr hinfix
    exact ⟨identifier, hmem, spelling, h, hidentifier⟩

/-- The override of the libraries alone. -/
theorem withOverrides_libraries (hbase : base.delimiters.firstEmpty? = none)
    (hset : lookup librariesName = some text)
    (hunset : ∀ name ∈ [typesName, categoryName, rulesName, confirmName], lookup name = none) :
    base.withOverrides lookup = .ok { base with libraries := readLibraries text } := by
  simp only [List.mem_cons, List.not_mem_nil, or_false, forall_eq_or_imp, forall_eq] at hunset
  obtain ⟨htypes, hcategory, hrules, hconfirm⟩ := hunset
  rw [withOverrides_eq_ok_iff]
  refine ⟨?_, ?_, ?_, hbase⟩
  · rw [overriddenConfirm, hconfirm]
  · rw [Delimiters.overridden, htypes, hcategory, hrules]
    rfl
  · rw [overriddenLibraries, hset]
    rfl

end Config

namespace Sandbox

private theorem eq_of_loaded_eq {s s' : Sandbox} (h : s.loaded = s'.loaded) : s = s' := by
  cases s
  cases s'
  exact congrArg Sandbox.mk h

/-- There are two sandboxes: one knows the library, the other does not. -/
theorem ofLibraries_eq (identifiers : List String) :
    (ofLibraries identifiers).value =
      if identifiers.any fun identifier => (Library.resolve? identifier).isSome then default.value
      else (ofLibraries []).value := by
  apply eq_of_loaded_eq
  rw [loaded_ofLibraries]
  split <;> rfl

/-- With the libraries as the only override, and delimiters that are not empty, the sandbox knows
    one library if the text names it anywhere in any case, and none otherwise. It evaluates every
    expression as the sandbox does that is made with this library, or with none, however many
    identifiers there are, in whatever order and however often one of them repeats. -/
theorem loaded_of_override {base : Config} {lookup : String → Option String} {text : String}
    (hbase : base.delimiters.types ≠ "" ∧ base.delimiters.category ≠ "" ∧
      base.delimiters.rules ≠ "")
    (hset : lookup Config.librariesName = some text)
    (hunset : ∀ name ∈ [Config.typesName, Config.categoryName, Config.rulesName,
      Config.confirmName], lookup name = none) :
    ∃ c, base.withOverrides lookup = .ok c ∧
      let s := (ofLibraries c.libraries).value
      ("lodash".toList <:+: Text.toLowerAscii text.toList →
        s.loadedNames = ["lodash"] ∧
          ∀ expression, s.evaluate expression = default.value.evaluate expression) ∧
      (¬ "lodash".toList <:+: Text.toLowerAscii text.toList →
        s.loadedNames = [] ∧
          ∀ expression, s.evaluate expression = (ofLibraries []).value.evaluate expression) := by
  have hvalid := Delimiters.firstEmpty?_eq_none_iff.mpr hbase
  refine ⟨_, Config.withOverrides_libraries hvalid hset hunset, ?_⟩
  rw [ofLibraries_eq, ← Config.any_readLibraries_iff]
  constructor
  · intro hany
    rw [if_pos hany]
    exact ⟨rfl, fun _ => rfl⟩
  · intro hnone
    rw [if_neg hnone]
    exact ⟨rfl, fun _ => rfl⟩

/-- Unknown, blank and repeated identifiers around a path that holds the name in capitals. -/
theorem loaded_of_override_repeated :
    let base : Config := ⟨⟨"#", "=", ","⟩, ["x"], false⟩
    let text := "left-pad; ;/js/LODASH.js ;; lodash;LoDash"
    let lookup := fun name => if name = Config.librariesName then some text else none
    base.delimiters.types ≠ "" ∧ base.delimiters.category ≠ "" ∧ base.delimiters.rules ≠ "" ∧
      lookup Config.librariesName = some text ∧
      (∀ name ∈ [Config.typesName, Config.categoryName, Config.rulesName, Config.confirmName],
        lookup name = none) ∧
      ∃ c, base.withOverrides lookup = .ok c ∧
        (ofLibraries c.libraries).value.loadedNames = ["lodash"] ∧
        ∀ expression,
          (ofLibraries c.libraries).value.evaluate expression =
            default.value.evaluate expression := by
  intro base text lookup
  have hbase : base.delimiters.types ≠ "" ∧ base.delimiters.category ≠ "" ∧
      base.delimiters.rules ≠ "" := by decide
  have hset : lookup Config.librariesName = some text := rfl
  have hunset : ∀ name ∈ [Config.typesName, Config.categoryName, Config.rulesName,
      Config.confirmName], lookup name = none := by decide +kernel
  have htext : "lodash".toList <:+: Text.toLowerAscii text.toList :=
    Text.occursIn_iff.mp (by decide +kernel)
  obtain ⟨c, hc, hnamed, -⟩ := loaded_of_override hbase hset hunset
  exact ⟨hbase.1, hbase.2.1, hbase.2.2, hset, hunset, c, hc, hnamed htext⟩

end Sandbox

end RuleVerify
