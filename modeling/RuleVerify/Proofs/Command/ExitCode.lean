import RuleVerify.Proofs.Command.Arguments
import RuleVerify.Proofs.Command.Preparation
import RuleVerify.Proofs.Definition.Block
import RuleVerify.Proofs.Schema
import RuleVerify.Proofs.Verifier.Response

namespace RuleVerify.Command

variable {s : Surroundings} {line : Line} {arguments : List String}

namespace Action

/-- The commands that verify a definition that they are given. -/
def isVerification : Action → Bool
  | .verify .. | .api .. => true
  | .runAll | .run _ => false

/-- The path of the payload file. -/
def payload? : Action → Option String
  | .api _ payload _ _ => some payload
  | _ => none

/-- The path of the schema file. -/
def schema? : Action → Option String
  | .api _ _ _ schema => schema
  | _ => none

end Action

/-- The rules of all entities that a definition has for a category, read with the delimiters of a
    configuration. -/
def heldRules (c : Config) (definition : String) (category : Category) : List String :=
  ((Definition.parse c.delimiters definition).entities.filter
    fun entity => entity.category = category).flatMap Entity.rules

private theorem rules_parse_eq_heldRules (c : Config) (definition : String) (category : Category) :
    (Definition.parse c.delimiters definition).rules category = heldRules c definition category :=
  Collection.rules_eq_flatMap (Definition.grouped_parse c.delimiters definition).nodup category

/-- What the rules that a definition holds for the category of a command come to, with the values of
    the command line or with the answers from the payload. -/
inductive Evaluated (s : Surroundings) (c : Config) : Action → Category → List Outcome → Prop
  | verify (rules : String) (category : Category) (values : List (String × String)) :
      Evaluated s c (.verify rules category values) category
        (ruleOutcomes (Verifier.ofLibraries c.libraries).value.boolean (Values.ofList values)
          (heldRules c rules category))
  | api {path payload : String} (rules contentType : String) (schema : Option String)
      (hpayload : s.file path = .ok payload) :
      Evaluated s c (.api rules path contentType schema) .apiResponse
        ((heldRules c rules .apiResponse).map fun rule =>
          (Verifier.ofLibraries c.libraries).value.boolean.outcome
            ((Verifier.ofLibraries c.libraries).value.expand payload contentType rule))

/-- The stages of a verification, in order. -/
inductive Stage where
  | configuration
  | payloadFile
  | schemaFile
  | schemaCompilation
  | schemaValidation
  | rules
deriving DecidableEq, Repr

namespace Stage

def order : List Stage :=
  [configuration, payloadFile, schemaFile, schemaCompilation, schemaValidation, rules]

/-- The stages in front of one. -/
def earlier (stage : Stage) : List Stage := order.takeWhile (· ≠ stage)

private theorem mem_earlier_rules_iff {stage : Stage} : stage ∈ earlier rules ↔ stage ≠ rules := by
  cases stage <;> decide

private theorem eq_or_mem_earlier (a b : Stage) : a = b ∨ a ∈ b.earlier ∨ b ∈ a.earlier := by
  cases a <;> cases b <;> decide

end Stage

/-- A stage fails with an error, whatever the stages in front of it do. -/
def FailsAt (s : Surroundings) (line : Line) (e : Error) : Stage → Prop
  | .configuration => s.resolved line.config = .error e
  | .payloadFile => ∃ path, line.action.payload? = some path ∧ s.Unreadable path e
  | .schemaFile => ∃ path, line.action.schema? = some path ∧ s.Unreadable path e
  | .schemaCompilation => ∃ path text, line.action.schema? = some path ∧ s.file path = .ok text ∧
      Schema.CompileFault path text e
  | .schemaValidation => ∃ path text document payloadPath payload,
      line.action.schema? = some path ∧ s.file path = .ok text ∧
        Schema.Compiles text document ∧
          line.action.payload? = some payloadPath ∧ s.file payloadPath = .ok payload ∧
            Schema.Rejects path document payload e
  | .rules => ∃ c category outcomes failures, s.resolved line.config = .ok c ∧
      Evaluated s c line.action category outcomes ∧
        failures ≠ [] ∧ e = .verificationFailed category failures ∧
          List.Forall₂ (fun outcome failure => Failure.Of outcome failure)
            (outcomes.filter fun outcome => outcome.verdict ≠ .holds) failures

/-- No stage in front of one fails. -/
def PassesTo (s : Surroundings) (line : Line) (stage : Stage) : Prop :=
  ∀ other ∈ stage.earlier, ∀ e, ¬FailsAt s line e other

/-- A stage fails, and none in front of it does. -/
structure FirstFailure (s : Surroundings) (line : Line) (stage : Stage) (e : Error) : Prop where
  fails : FailsAt s line e stage
  passes : PassesTo s line stage

/-- All that the exit code zero stands for. -/
def Accepts (s : Surroundings) (line : Line) : Prop :=
  ∃ c, s.resolved line.config = .ok c ∧
    (∀ path, line.action.payload? = some path → ∃ payload, s.file path = .ok payload ∧
      ∀ schema, line.action.schema? = some schema → ∃ text document, s.file schema = .ok text ∧
        Schema.Compiles text document ∧ Schema.Conforms document payload) ∧
    ∃ category outcomes, Evaluated s c line.action category outcomes ∧
      ∀ outcome ∈ outcomes, outcome.verdict = .holds

/-- A command line verifies one category, with one row of outcomes. -/
theorem Evaluated.unique {c : Config} {action : Action} {category category' : Category}
    {outcomes outcomes' : List Outcome} (h : Evaluated s c action category outcomes)
    (h' : Evaluated s c action category' outcomes') :
    category = category' ∧ outcomes = outcomes' := by
  cases h with
  | verify =>
    cases h'
    exact ⟨rfl, rfl⟩
  | api rules contentType schema hpayload =>
    cases h' with
    | api _ _ _ hpayload' =>
      cases hpayload.symm.trans hpayload'
      exact ⟨rfl, rfl⟩

private theorem Evaluated.failsAt_rules_iff {c : Config} {category : Category}
    {outcomes : List Outcome}
    {e : Error} (hconfig : s.resolved line.config = .ok c)
    (h : Evaluated s c line.action category outcomes) :
    FailsAt s line e .rules ↔ Report.result ⟨category, outcomes⟩ = .error e := by
  rw [Report.result_eq_error_iff_of]
  constructor
  · rintro ⟨c', category', outcomes', failures, hconfig', h', hfailures⟩
    cases hconfig.symm.trans hconfig'
    obtain ⟨rfl, rfl⟩ := h.unique h'
    exact ⟨failures, hfailures⟩
  · rintro ⟨failures, hfailures⟩
    exact ⟨c, category, outcomes, failures, hconfig, h, hfailures⟩

/-- Every stage fails with one error only. -/
theorem FailsAt.unique {stage : Stage} {e e' : Error} (h : FailsAt s line e stage)
    (h' : FailsAt s line e' stage) : e = e' := by
  cases stage with
  | configuration => exact Except.error.inj (h.symm.trans h')
  | payloadFile | schemaFile =>
    obtain ⟨path, hpath, hunreadable⟩ := h
    obtain ⟨path', hpath', hunreadable'⟩ := h'
    cases hpath.symm.trans hpath'
    exact Except.error.inj (hunreadable.read_eq.symm.trans hunreadable'.read_eq)
  | schemaCompilation =>
    obtain ⟨path, text, hpath, hfile, hfault⟩ := h
    obtain ⟨path', text', hpath', hfile', hfault'⟩ := h'
    cases hpath.symm.trans hpath'
    cases hfile.symm.trans hfile'
    exact hfault.unique hfault'
  | schemaValidation =>
    obtain ⟨path, text, document, payloadPath, payload, hpath, hfile, hcompiles, hpayload,
      hpayloadFile, hrejects⟩ := h
    obtain ⟨path', text', document', payloadPath', payload', hpath', hfile', hcompiles', hpayload',
      hpayloadFile', hrejects'⟩ := h'
    cases hpath.symm.trans hpath'
    cases hfile.symm.trans hfile'
    cases hcompiles.unique hcompiles'
    cases hpayload.symm.trans hpayload'
    cases hpayloadFile.symm.trans hpayloadFile'
    exact hrejects.unique hrejects'
  | rules =>
    obtain ⟨c, category, outcomes, failures, hconfig, hevaluated, hfailures⟩ := h
    have hresult := (hevaluated.failsAt_rules_iff hconfig).mp
      ⟨c, category, outcomes, failures, hconfig, hevaluated, hfailures⟩
    have hresult' := (hevaluated.failsAt_rules_iff hconfig).mp h'
    exact Except.error.inj (hresult.symm.trans hresult')

/-- There is at most one first failure, and it has one error. -/
theorem FirstFailure.unique {stage stage' : Stage} {e e' : Error} (h : FirstFailure s line stage e)
    (h' : FirstFailure s line stage' e') : stage = stage' ∧ e = e' := by
  obtain rfl | hlater | hearlier := Stage.eq_or_mem_earlier stage stage'
  · exact ⟨rfl, h.fails.unique h'.fails⟩
  · exact absurd h.fails (h'.passes stage hlater e)
  · exact absurd h'.fails (h.passes stage' hearlier e')

section Passing

variable {c : Config} {path text schema payload : String} {document : Json.Value} {e : Error}

private theorem not_failsAt_configuration (hconfig : s.resolved line.config = .ok c) :
    ¬FailsAt s line e .configuration := by
  intro h
  cases h.symm.trans hconfig

private theorem not_failsAt_payloadFile (hpath : line.action.payload? = some path)
    (hfile : s.file path = .ok payload) : ¬FailsAt s line e .payloadFile := by
  rintro ⟨path', hpath', hunreadable⟩
  cases hpath.symm.trans hpath'
  exact hunreadable.file_ne_ok hfile

private theorem not_failsAt_schemaFile (hschema : line.action.schema? = some schema)
    (hfile : s.file schema = .ok text) : ¬FailsAt s line e .schemaFile := by
  rintro ⟨schema', hschema', hunreadable⟩
  cases hschema.symm.trans hschema'
  exact hunreadable.file_ne_ok hfile

private theorem not_failsAt_schemaCompilation (hschema : line.action.schema? = some schema)
    (hfile : s.file schema = .ok text) (hcompiles : Schema.Compiles text document) :
    ¬FailsAt s line e .schemaCompilation := by
  rintro ⟨schema', text', hschema', hfile', hfault⟩
  cases hschema.symm.trans hschema'
  cases hfile.symm.trans hfile'
  exact hcompiles.not_compileFault hfault

private theorem not_failsAt_schemaValidation (hpath : line.action.payload? = some path)
    (hpayload : s.file path = .ok payload) (hschema : line.action.schema? = some schema)
    (hfile : s.file schema = .ok text) (hcompiles : Schema.Compiles text document)
    (hconforms : Schema.Conforms document payload) : ¬FailsAt s line e .schemaValidation := by
  rintro ⟨schema', text', document', path', payload', hschema', hfile', hcompiles', hpath',
    hpayload', hrejects⟩
  cases hschema.symm.trans hschema'
  cases hfile.symm.trans hfile'
  cases hcompiles.unique hcompiles'
  cases hpath.symm.trans hpath'
  cases hpayload.symm.trans hpayload'
  exact hconforms.not_rejects hrejects

/-- Where no schema is named its stages are passed. -/
theorem not_failsAt_of_schema_none {stage : Stage} (hschema : line.action.schema? = none)
    (hstage : stage ∈ [Stage.schemaFile, .schemaCompilation, .schemaValidation]) :
    ¬FailsAt s line e stage := by
  simp only [List.mem_cons, List.not_mem_nil, or_false] at hstage
  obtain rfl | rfl | rfl := hstage <;> simp [FailsAt, hschema]

private theorem passesTo_configuration : PassesTo s line .configuration := nofun

/-- A stage that passes leads to the one behind it. -/
theorem PassesTo.next {stage other : Stage} (h : PassesTo s line stage)
    (hother : other.earlier = stage.earlier ++ [stage]) (hpass : ∀ e, ¬FailsAt s line e stage) :
    PassesTo s line other := by
  rw [PassesTo, hother, List.forall_mem_append, List.forall_mem_singleton]
  exact ⟨h, hpass⟩

private theorem PassesTo.rules_of_schema_none (h : PassesTo s line .schemaFile)
    (hschema : line.action.schema? = none) : PassesTo s line .rules := by
  have hfile : PassesTo s line .schemaCompilation :=
    h.next rfl fun _ => not_failsAt_of_schema_none hschema (by decide)
  have hcompilation : PassesTo s line .schemaValidation :=
    hfile.next rfl fun _ => not_failsAt_of_schema_none hschema (by decide)
  exact hcompilation.next rfl fun _ => not_failsAt_of_schema_none hschema (by decide)

end Passing

/-- The stages in front of the rules lead to a verification, or one of them stops the command. -/
inductive Reaches (s : Surroundings) (line : Line) :
    Except Error (Traced (Except Error Report)) → Prop
  | stopped (stage : Stage) {e : Error} (hstage : stage ≠ .rules)
      (hfirst : FirstFailure s line stage e) : Reaches s line (.error e)
  | arrived {c : Config} {category : Category} {outcomes : List Outcome}
      {t : Traced (Except Error Report)} (hpasses : PassesTo s line .rules)
      (hconfig : s.resolved line.config = .ok c)
      (hevaluated : Evaluated s c line.action category outcomes)
      (hvalue : t.value = Report.result ⟨category, outcomes⟩) : Reaches s line (.ok t)

private theorem reaches_verify {rules : String} {category : Category}
    {values : List (String × String)}
    (haction : line.action = .verify rules category values) :
    Reaches s line
      ((s.resolved line.config).bind fun c => .ok ((Verifier.ofLibraries c.libraries).value.verify
        (Definition.parse c.delimiters rules) (Values.ofList values) category)) := by
  cases hconfig : s.resolved line.config with
  | error e => exact .stopped .configuration nofun ⟨hconfig, passesTo_configuration⟩
  | ok c =>
    have hpayloadFile : PassesTo s line .payloadFile :=
      passesTo_configuration.next rfl fun _ => not_failsAt_configuration hconfig
    have hschemaFile : PassesTo s line .schemaFile :=
      hpayloadFile.next rfl fun _ => by simp [FailsAt, haction, Action.payload?]
    have hevaluated := Evaluated.verify (s := s) (c := c) rules category values
    rw [← haction] at hevaluated
    refine .arrived (hschemaFile.rules_of_schema_none (by rw [haction]; rfl)) hconfig hevaluated ?_
    rw [Verifier.value_verify, rules_parse_eq_heldRules]

/-- With a payload at hand the schema alone decides whether the rules are reached. -/
theorem reaches_of_passesTo_schemaFile {c : Config} {category : Category} {outcomes : List Outcome}
    {path payload : String} {t : Traced (Except Error Report)}
    (hpasses : PassesTo s line .schemaFile) (hconfig : s.resolved line.config = .ok c)
    (hpath : line.action.payload? = some path) (hpayload : s.file path = .ok payload)
    (hevaluated : Evaluated s c line.action category outcomes)
    (hvalue : t.value = Report.result ⟨category, outcomes⟩) :
    Reaches s line ((s.conforms line.action.schema? payload).bind fun _ => .ok t) := by
  cases hschema : line.action.schema? with
  | none => exact .arrived (hpasses.rules_of_schema_none hschema) hconfig hevaluated hvalue
  | some schema =>
    change Reaches s line (((s.read schema).bind fun text =>
      (Schema.Validator.ofText schema text).bind fun validator =>
        (validator.validate payload).value).bind fun _ => .ok t)
    obtain ⟨text, hfile⟩ | ⟨e, hunreadable⟩ := s.file_eq_ok_or_unreadable schema
    · rw [Surroundings.read_of_file_eq_ok hfile]
      have hcompilation : PassesTo s line .schemaCompilation :=
        hpasses.next rfl fun _ => not_failsAt_schemaFile hschema hfile
      change Reaches s line (((Schema.Validator.ofText schema text).bind fun validator =>
        (validator.validate payload).value).bind fun _ => .ok t)
      obtain ⟨document, hcompiles⟩ | ⟨e, hfault⟩ := Schema.compiles_or_compileFault schema text
      · rw [hcompiles.ofText_eq]
        have hvalidation : PassesTo s line .schemaValidation :=
          hcompilation.next rfl fun _ => not_failsAt_schemaCompilation hschema hfile hcompiles
        change Reaches s line
          ((Schema.Validator.validate ⟨schema, document⟩ payload).value.bind fun _ => .ok t)
        obtain hconforms | ⟨e, hrejects⟩ := Schema.conforms_or_rejects schema document payload
        · rw [hconforms.value_validate_eq]
          have hrules : PassesTo s line .rules := hvalidation.next rfl fun _ =>
            not_failsAt_schemaValidation hpath hpayload hschema hfile hcompiles hconforms
          exact .arrived hrules hconfig hevaluated hvalue
        · rw [hrejects.value_validate_eq]
          exact .stopped .schemaValidation nofun ⟨⟨schema, text, document, path, payload, hschema,
            hfile, hcompiles, hpath, hpayload, hrejects⟩, hvalidation⟩
      · rw [hfault.ofText_eq]
        exact .stopped .schemaCompilation nofun
          ⟨⟨schema, text, hschema, hfile, hfault⟩, hcompilation⟩
    · rw [hunreadable.read_eq]
      exact .stopped .schemaFile nofun ⟨⟨schema, hschema, hunreadable⟩, hpasses⟩

private theorem reaches_api {rules path contentType : String} {schema : Option String}
    (haction : line.action = .api rules path contentType schema) :
    Reaches s line
      ((s.resolved line.config).bind fun c => (s.read path).bind fun payload =>
        (s.conforms schema payload).bind fun _ =>
          .ok ((Verifier.ofLibraries c.libraries).value.verifyResponse payload contentType
            (Definition.parse c.delimiters rules))) := by
  have hpath : line.action.payload? = some path := by rw [haction]; rfl
  have hschema : line.action.schema? = schema := by rw [haction]; rfl
  cases hconfig : s.resolved line.config with
  | error e => exact .stopped .configuration nofun ⟨hconfig, passesTo_configuration⟩
  | ok c =>
    have hpayloadFile : PassesTo s line .payloadFile :=
      passesTo_configuration.next rfl fun _ => not_failsAt_configuration hconfig
    obtain ⟨payload, hpayload⟩ | ⟨e, hunreadable⟩ := s.file_eq_ok_or_unreadable path
    · have hschemaFile : PassesTo s line .schemaFile :=
        hpayloadFile.next rfl fun _ => not_failsAt_payloadFile hpath hpayload
      have hevaluated := Evaluated.api (c := c) rules contentType schema hpayload
      rw [← haction] at hevaluated
      rw [Surroundings.read_of_file_eq_ok hpayload, ← hschema]
      refine reaches_of_passesTo_schemaFile hschemaFile hconfig hpath hpayload hevaluated ?_
      rw [Verifier.value_verifyResponse, rules_parse_eq_heldRules]
    · rw [hunreadable.read_eq]
      exact .stopped .payloadFile nofun ⟨⟨path, hpath, hunreadable⟩, hpayloadFile⟩

/-- What a session leads to is what its stages say. -/
theorem exists_leadsTo_reaches (s : Surroundings) (haction : line.action.isVerification = true) :
    ∃ reached, (line.session s).LeadsTo reached ∧ Reaches s line reached := by
  cases hline : line.action with
  | runAll | run _ => simp [hline, Action.isVerification] at haction
  | verify rules category values =>
    refine ⟨_, ?_, reaches_verify hline⟩
    rw [Line.session, hline]
    exact leadsTo_verify ..
  | api rules path contentType schema =>
    refine ⟨_, ?_, reaches_api hline⟩
    rw [Line.session, hline]
    exact leadsTo_api ..

private theorem Action.exists_payload?_of_schema? {action : Action} {schema : String}
    (hschema : action.schema? = some schema) : ∃ path, action.payload? = some path := by
  cases action with
  | runAll | run _ | verify _ _ _ => cases hschema
  | api rules path contentType _ => exact ⟨path, rfl⟩

/-- A command line that is accepted fails at no stage. -/
theorem Accepts.not_failsAt (h : Accepts s line) (stage : Stage) (e : Error) :
    ¬FailsAt s line e stage := by
  obtain ⟨c, hconfig, hfiles, category, outcomes, hevaluated, hholds⟩ := h
  have hschemas (schema : String) (hschema : line.action.schema? = some schema) :
      ∃ path payload text document, line.action.payload? = some path ∧
        s.file path = .ok payload ∧ s.file schema = .ok text ∧
          Schema.Compiles text document ∧ Schema.Conforms document payload := by
    obtain ⟨path, hpath⟩ := Action.exists_payload?_of_schema? hschema
    obtain ⟨payload, hpayload, hmeets⟩ := hfiles path hpath
    obtain ⟨text, document, hfile, hcompiles, hconforms⟩ := hmeets schema hschema
    exact ⟨path, payload, text, document, hpath, hpayload, hfile, hcompiles, hconforms⟩
  intro hfails
  cases stage with
  | configuration => exact not_failsAt_configuration hconfig hfails
  | payloadFile =>
    have ⟨path, hpath, _⟩ := hfails
    obtain ⟨payload, hpayload, -⟩ := hfiles path hpath
    exact not_failsAt_payloadFile hpath hpayload hfails
  | schemaFile =>
    have ⟨schema, hschema, _⟩ := hfails
    obtain ⟨_, _, _, _, -, -, hfile, -⟩ := hschemas schema hschema
    exact not_failsAt_schemaFile hschema hfile hfails
  | schemaCompilation =>
    have ⟨schema, _, hschema, _⟩ := hfails
    obtain ⟨_, _, _, _, -, -, hfile, hcompiles, -⟩ := hschemas schema hschema
    exact not_failsAt_schemaCompilation hschema hfile hcompiles hfails
  | schemaValidation =>
    have ⟨schema, _, _, _, _, hschema, _⟩ := hfails
    obtain ⟨_, _, _, _, hpath, hpayload, hfile, hcompiles, hconforms⟩ := hschemas schema hschema
    exact not_failsAt_schemaValidation hpath hpayload hschema hfile hcompiles hconforms hfails
  | rules =>
    rw [hevaluated.failsAt_rules_iff hconfig, Report.result_eq_error_iff] at hfails
    have hpassed : (Report.mk category outcomes).passed = true := Report.passed_iff.mpr hholds
    rw [← Report.isEmpty_failures, List.isEmpty_iff] at hpassed
    exact hfails.1 hpassed

/-- A verification that is reached and passes means that the command line is accepted. -/
theorem Reaches.accepts {t : Traced (Except Error Report)} {report : Report}
    (h : Reaches s line (.ok t)) (ht : t.value = .ok report) : Accepts s line := by
  cases h with
  | @arrived c category outcomes t hpasses hconfig hevaluated hvalue =>
    refine ⟨c, hconfig, ?_, category, outcomes, hevaluated, ?_⟩
    · intro path hpath
      obtain ⟨payload, hpayload⟩ | ⟨e, hunreadable⟩ := s.file_eq_ok_or_unreadable path
      · refine ⟨payload, hpayload, ?_⟩
        intro schema hschema
        obtain ⟨text, hfile⟩ | ⟨e, hunreadable⟩ := s.file_eq_ok_or_unreadable schema
        · obtain ⟨document, hcompiles⟩ | ⟨e, hfault⟩ := Schema.compiles_or_compileFault schema text
          · obtain hconforms | ⟨e, hrejects⟩ := Schema.conforms_or_rejects schema document payload
            · exact ⟨text, document, hfile, hcompiles, hconforms⟩
            · exact absurd ⟨schema, text, document, path, payload, hschema, hfile, hcompiles, hpath,
                hpayload, hrejects⟩ (hpasses .schemaValidation (by decide) e)
          · exact absurd ⟨schema, text, hschema, hfile, hfault⟩
              (hpasses .schemaCompilation (by decide) e)
        · exact absurd ⟨schema, hschema, hunreadable⟩ (hpasses .schemaFile (by decide) e)
      · exact absurd ⟨path, hpath, hunreadable⟩ (hpasses .payloadFile (by decide) e)
    · rw [hvalue, Report.result_eq_ok_iff, Report.passed_iff] at ht
      exact ht.1

/-- A verification that is reached and fails is the first failure, because no stage in front of it
    failed. -/
theorem Reaches.firstFailure {t : Traced (Except Error Report)} {e : Error}
    (h : Reaches s line (.ok t)) (ht : t.value = .error e) : FirstFailure s line .rules e := by
  cases h with
  | arrived hpasses hconfig hevaluated hvalue =>
    exact ⟨(hevaluated.failsAt_rules_iff hconfig).mpr (hvalue.symm.trans ht), hpasses⟩

/-- A session ends well if the command line is accepted, and with the first failure otherwise. -/
theorem result_session (s : Surroundings) (haction : line.action.isVerification = true) :
    ((line.session s).result = .ok () ∧ Accepts s line) ∨
      ∃ stage e, (line.session s).result = .error e ∧ FirstFailure s line stage e := by
  obtain ⟨reached, hleads, hreaches⟩ := exists_leadsTo_reaches s haction
  rw [hleads.result_eq]
  cases reached with
  | error e =>
    cases hreaches with
    | stopped stage hstage hfirst => exact .inr ⟨stage, e, rfl, hfirst⟩
  | ok t =>
    cases hvalue : t.value with
    | ok report => exact .inl ⟨by simp [Except.bind, Except.map, hvalue], hreaches.accepts hvalue⟩
    | error e =>
      exact .inr
        ⟨.rules, e, by simp [Except.bind, Except.map, hvalue], hreaches.firstFailure hvalue⟩

/-- A stage in front of the rules that fails leaves the evaluators without a question. -/
theorem calls_session_eq_nil (haction : line.action.isVerification = true) {stage : Stage}
    {e : Error} (hstage : stage ≠ .rules) (hfails : FailsAt s line e stage) :
    (line.session s).calls = [] := by
  obtain ⟨reached, hleads, hreaches⟩ := exists_leadsTo_reaches s haction
  cases hreaches with
  | stopped => exact hleads.calls_eq_nil _ rfl
  | arrived hpasses =>
    exact absurd hfails (hpasses stage (Stage.mem_earlier_rules_iff.mpr hstage) e)

private theorem run_eq (hline : Line.ofArguments? arguments = some line) (s : Surroundings) :
    run s arguments = output (Log.Filter.ofSetting (s.setting filterName)) (line.session s) := by
  rw [run, hline]

private theorem exitCode_output_of_ok {filter : Log.Filter} {session : Session Unit}
    (h : session.result = .ok ()) :
    (output filter session).exitCode = 0 ∧ (output filter session).err = "" := by
  simp [output, h]

private theorem exitCode_output_of_error {filter : Log.Filter} {session : Session Unit} {e : Error}
    (h : session.result = .error e) :
    (output filter session).exitCode = 1 ∧ (output filter session).err = e.message ++ "\n" := by
  simp [output, h]

/-- What the exit code and the error text of a verification tell. -/
structure Truthful (s : Surroundings) (arguments : List String) (line : Line) : Prop where
  exitCode_eq_zero_iff : (run s arguments).exitCode = 0 ↔ Accepts s line
  err_of_accepts : Accepts s line → (run s arguments).err = ""
  exists_firstFailure : ¬Accepts s line → ∃ stage e, FirstFailure s line stage e
  of_firstFailure : ∀ stage e, FirstFailure s line stage e →
    (run s arguments).exitCode = 1 ∧ (run s arguments).err = e.message ++ "\n"
  /-- Nobody is asked while a stage in front of the rules fails. -/
  calls_eq_nil : ∀ stage e, stage ≠ .rules → FailsAt s line e stage → (line.session s).calls = []
  /-- The flag for JSON may be put in front. -/
  ofArguments?_json : line.json = false →
    Line.ofArguments? ("--json" :: arguments) = some { line with json := true }
  /-- Reports as JSON and reports as text go with the same exit code and the same error text. -/
  run_of_json : ∀ other json, Line.ofArguments? other = some { line with json := json } →
    (run s other).exitCode = (run s arguments).exitCode ∧ (run s other).err = (run s arguments).err
  /-- The values are split at their first equals sign, and the last one of a name counts. -/
  values : ∀ rules category values, line.action = .verify rules category values →
    List.Forall₂ (fun text entry => text = entry.1 ++ "=" ++ entry.2 ∧ '=' ∉ entry.1.toList)
        (optionTexts "value" arguments) values ∧
      ∀ name, (Values.ofList values).get? name =
        ((values.filter fun entry => entry.1 = name).getLast?).map Prod.snd

/-- The exit code and the error text of a well-formed command line, without a look at how its
    report is printed. -/
theorem exit_of_ofArguments? (hline : Line.ofArguments? arguments = some line)
    (haction : line.action.isVerification = true) :
    (Accepts s line ∧ (run s arguments).exitCode = 0 ∧ (run s arguments).err = "") ∨
      ∃ stage e, FirstFailure s line stage e ∧ (run s arguments).exitCode = 1 ∧
        (run s arguments).err = e.message ++ "\n" := by
  rw [run_eq hline]
  obtain ⟨hresult, haccepts⟩ | ⟨stage, e, hresult, hfirst⟩ := result_session s haction
  · exact .inl ⟨haccepts, exitCode_output_of_ok hresult⟩
  · exact .inr ⟨stage, e, hfirst, exitCode_output_of_error hresult⟩

/-- Whether a command line passes a stage does not depend on how its report is printed. -/
theorem failsAt_json_iff {json : Bool} {stage : Stage} {e : Error} :
    FailsAt s { line with json := json } e stage ↔ FailsAt s line e stage := by
  cases stage <;> rfl

private theorem FirstFailure.of_json {json : Bool} {stage : Stage} {e : Error}
    (h : FirstFailure s { line with json := json } stage e) : FirstFailure s line stage e :=
  ⟨failsAt_json_iff.mp h.fails, fun other hother e' hfails =>
    h.passes other hother e' (failsAt_json_iff.mpr hfails)⟩

/-- No variable is set, and `schema.json` is the only file. -/
def bareSurroundings : Surroundings where
  setting _ := none
  file path := if path = "schema.json" then .ok "\x7b\x7d" else .error "No such file"
  stamp _ := ⟨"", ""⟩

/-- The first value of `a` would not do. -/
def repeatedValue : List String :=
  ["verify", "--value", "a=1=2", "--rules=UI_COMMON:  \"$\x7ba\x7d\" == \"3\"", "--category",
    "ui_common", "--value=a=3"]

def missingPayload : List String :=
  ["--json", "api", "--payload=p.json", "--rules", "API_RESPONSE:  true", "--json-schema",
    "schema.json"]

end RuleVerify.Command
