import RuleVerify.Schema.Validator

namespace RuleVerify.Schema

variable {id text payload : String} {document : Json.Value} {e e' : Error}

/-- The text is that of a document, and the document is a schema. -/
def Compiles (text : String) (document : Json.Value) : Prop :=
  Json.Value.ofText? text = some document ∧ isSchema document = true

/-- Why a text is no schema. The identifier is told only of a document that could be read. -/
inductive CompileFault (id text : String) : Error → Prop
  | malformed (htext : Json.Value.ofText? text = none) :
      CompileFault id text (.config "failed to parse JSON Schema: malformed document")
  | invalid {document : Json.Value} (htext : Json.Value.ofText? text = some document)
      (hschema : isSchema document = false) :
      CompileFault id text
        (.config ("invalid JSON Schema document '" ++ id ++ "': a keyword has the wrong form"))

/-- A payload meets a schema. A payload of white space meets all of them. -/
def Conforms (document : Json.Value) (payload : String) : Prop :=
  (∀ c ∈ payload.toList, Text.isBlank c = true) ∨
    ∃ v, Json.Value.ofText? payload = some v ∧ violations document v = []

/-- Why a payload does not meet a schema. Everything that is wrong with it is told at once. -/
inductive Rejects (id : String) (document : Json.Value) (payload : String) : Error → Prop
  | malformed (hblank : ¬∀ c ∈ payload.toList, Text.isBlank c = true)
      (hpayload : Json.Value.ofText? payload = none) :
      Rejects id document payload (.schema "payload is not valid JSON: malformed document")
  | violated {v : Json.Value} (hblank : ¬∀ c ∈ payload.toList, Text.isBlank c = true)
      (hpayload : Json.Value.ofText? payload = some v) (hviolated : violations document v ≠ []) :
      Rejects id document payload (.schema
        (id ++ ": " ++ String.intercalate "; " ((violations document v).map Violation.message)))

/-- A text that compiles gives a validator under every identifier. -/
theorem Compiles.ofText_eq (h : Compiles text document) (id : String) :
    Validator.ofText id text = .ok ⟨id, document⟩ := by
  simp only [Validator.ofText, h.1, h.2, if_true]

/-- A text with a fault stops with that fault. -/
theorem CompileFault.ofText_eq (h : CompileFault id text e) :
    Validator.ofText id text = .error e := by
  cases h with
  | malformed htext =>
    rw [Validator.ofText, htext]
    rfl
  | invalid htext hschema =>
    simp only [Validator.ofText, htext, hschema]
    rfl

/-- Every text compiles or has a fault. -/
theorem compiles_or_compileFault (id text : String) :
    (∃ document, Compiles text document) ∨ ∃ e, CompileFault id text e := by
  cases htext : Json.Value.ofText? text with
  | none => exact .inr ⟨_, .malformed htext⟩
  | some document =>
    cases hschema : isSchema document with
    | true => exact .inl ⟨document, htext, hschema⟩
    | false => exact .inr ⟨_, .invalid htext hschema⟩

theorem Compiles.unique {document' : Json.Value} (h : Compiles text document)
    (h' : Compiles text document') : document = document' :=
  Option.some.inj (h.1.symm.trans h'.1)

theorem CompileFault.unique (h : CompileFault id text e) (h' : CompileFault id text e') :
    e = e' :=
  Except.error.inj (h.ofText_eq.symm.trans h'.ofText_eq)

/-- No text that compiles has a fault, under any identifier. -/
theorem Compiles.not_compileFault (h : Compiles text document) : ¬CompileFault id text e := by
  intro hfault
  cases (h.ofText_eq id).symm.trans hfault.ofText_eq

/-- A payload that meets the document passes, whatever the identifier. -/
theorem Conforms.value_validate_eq (h : Conforms document payload) (id : String) :
    (Validator.validate ⟨id, document⟩ payload).value = .ok () := by
  rw [Validator.validate]
  split
  · rfl
  · rename_i hblank
    obtain hall | ⟨v, hpayload, hviolations⟩ := h
    · exact absurd (List.all_eq_true.mpr hall) hblank
    · simp only [hpayload, hviolations]

/-- A payload that is rejected stops with the reason for it. -/
theorem Rejects.value_validate_eq (h : Rejects id document payload e) :
    (Validator.validate ⟨id, document⟩ payload).value = .error e := by
  have hfilled (hblank : ¬∀ c ∈ payload.toList, Text.isBlank c = true) :
      ¬Text.allBlank payload.toList = true :=
    mt List.all_eq_true.mp hblank
  cases h with
  | malformed hblank hpayload =>
    rw [Validator.validate, if_neg (hfilled hblank), hpayload]
    rfl
  | violated hblank hpayload hviolated =>
    simp only [Validator.validate, if_neg (hfilled hblank), hpayload]
    rfl

/-- Every payload meets a document or is rejected by it. -/
theorem conforms_or_rejects (id : String) (document : Json.Value) (payload : String) :
    Conforms document payload ∨ ∃ e, Rejects id document payload e := by
  by_cases hblank : ∀ c ∈ payload.toList, Text.isBlank c = true
  · exact .inl (.inl hblank)
  · cases hpayload : Json.Value.ofText? payload with
    | none => exact .inr ⟨_, .malformed hblank hpayload⟩
    | some v =>
      by_cases hviolations : violations document v = []
      · exact .inl (.inr ⟨v, hpayload, hviolations⟩)
      · exact .inr ⟨_, .violated hblank hpayload hviolations⟩

theorem Rejects.unique (h : Rejects id document payload e) (h' : Rejects id document payload e') :
    e = e' :=
  Except.error.inj (h.value_validate_eq.symm.trans h'.value_validate_eq)

/-- No payload both meets a document and is rejected by it. -/
theorem Conforms.not_rejects (h : Conforms document payload) : ¬Rejects id document payload e := by
  intro hrejects
  cases (h.value_validate_eq id).symm.trans hrejects.value_validate_eq

end RuleVerify.Schema
