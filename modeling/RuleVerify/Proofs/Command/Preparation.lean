import RuleVerify.Command.Run
import RuleVerify.Proofs.Verifier.Calls

namespace RuleVerify

variable {α β : Type}

/-- The question to an evaluator or a source that a line of a session stands for. -/
def SessionLine.call? : SessionLine → Option Event
  | .printed _ => none
  | .noted _ event => Option.guard Event.isCall event

/-- What was asked in a session, in order. -/
def Session.calls (s : Session α) : List Event := s.lines.filterMap SessionLine.call?

namespace Session

/-- What comes behind a part that stops is not asked. -/
theorem calls_bind (s : Session α) (f : α → Session β) :
    (s >>= f).calls = s.calls ++ match s.result with
      | .ok a => (f a).calls
      | .error _ => [] := by
  rw [calls, calls]
  simp only [Bind.bind, bind]
  cases s.result with
  | ok a => exact List.filterMap_append
  | error e => exact (List.append_nil _).symm

private theorem calls_bind_eq_nil {s : Session α} {f : α → Session β} (hs : s.calls = [])
    (hf : ∀ a, (f a).calls = []) : (s >>= f).calls = [] := by
  rw [calls_bind, hs]
  cases s.result with
  | ok a => exact hf a
  | error e => rfl

private theorem calls_noted (stamp : Stamp) (events : List Event) :
    (events.map (.noted stamp)).filterMap SessionLine.call? = events.filter Event.isCall := by
  rw [List.filterMap_map, ← List.filterMap_eq_filter]
  rfl

@[simp] theorem calls_trace (stamp : Stamp) (t : Traced α) : (trace stamp t).calls = t.calls :=
  calls_noted stamp t.events

@[simp] theorem calls_attempt (stamp : Stamp) (t : Traced (Except Error α)) :
    (attempt stamp t).calls = t.calls :=
  calls_noted stamp t.events

@[simp] theorem calls_ofExcept (result : Except Error α) : (ofExcept result).calls = [] := rfl

@[simp] theorem calls_say (text : String) : (say text).calls = [] := rfl

@[simp] theorem calls_sayAll (texts : List String) : (sayAll texts).calls = [] := by
  simp [calls, sayAll, List.filterMap_map, Function.comp_def, SessionLine.call?]

/-- A session that asks for nothing until it reaches a verification, and from there on ends as the
    verification does. It may stop before. -/
structure LeadsTo (s : Session Unit) (reached : Except Error (Traced (Except Error Report))) :
    Prop where
  result_eq : s.result = reached.bind fun t => t.value.map fun _ => ()
  calls_eq : ∀ t, reached = .ok t → s.calls = t.calls
  calls_eq_nil : ∀ e, reached = .error e → s.calls = []

/-- A part that asks for nothing may stand in front. If it stops, the verification is not reached.
    -/
theorem LeadsTo.bind {s : Session α} {f : α → Session Unit}
    {reached : α → Except Error (Traced (Except Error Report))} (hs : s.calls = [])
    (hf : ∀ a, (f a).LeadsTo (reached a)) : (s >>= f).LeadsTo (s.result.bind reached) := by
  have hcalls := calls_bind s f
  have hresult := result_bind s f
  rw [hs, List.nil_append] at hcalls
  cases hend : s.result with
  | ok a =>
    rw [hend] at hcalls hresult
    exact ⟨hresult.trans (hf a).result_eq, fun t ht => hcalls.trans ((hf a).calls_eq t ht),
      fun e he => hcalls.trans ((hf a).calls_eq_nil e he)⟩
  | error e =>
    rw [hend] at hcalls hresult
    exact ⟨hresult, nofun, fun _ _ => hcalls⟩

private theorem LeadsTo.trace_bind {t : Traced α} {f : α → Session Unit}
    {reached : Except Error (Traced (Except Error Report))} (stamp : Stamp) (ht : t.calls = [])
    (h : (f t.value).LeadsTo reached) : (trace stamp t >>= f).LeadsTo reached := by
  have hcalls : (trace stamp t >>= f).calls = (f t.value).calls := by
    rw [calls_bind, calls_trace, ht, List.nil_append]
    rfl
  exact ⟨h.result_eq, fun t ht => hcalls.trans (h.calls_eq t ht),
    fun e he => hcalls.trans (h.calls_eq_nil e he)⟩

end Session

namespace Traced

private theorem calls_bind (t : Traced α) (f : α → Traced β) :
    (t >>= f).calls = t.calls ++ (f t.value).calls := by
  simp [calls]

private theorem calls_foldlM_eq_nil {f : α → β → Traced α} (hf : ∀ a b, (f a b).calls = []) (a : α)
    (bs : List β) : (bs.foldlM f a).calls = [] := by
  induction bs generalizing a with
  | nil => rfl
  | cons b bs ih => rw [List.foldlM_cons, calls_bind, hf, ih, List.nil_append]

end Traced

private theorem Config.value_resolve (c : Config) (lookup : String → Option String) :
    (c.resolve lookup).value = c.withOverrides lookup := by
  rw [resolve]
  cases c.withOverrides lookup <;> rfl

private theorem Config.calls_resolve (c : Config) (lookup : String → Option String) :
    (c.resolve lookup).calls = [] := by
  rw [resolve]
  cases c.withOverrides lookup <;> rfl

/-- Reading a definition asks for nothing, whatever its blocks are. -/
theorem Definition.calls_read (d : Delimiters) (definition : String) :
    (read d definition).calls = [] := by
  rw [Traced.calls, List.filter_eq_nil_iff]
  intro event hmem
  rw [read, List.mem_append, List.mem_filterMap, List.mem_singleton] at hmem
  obtain ⟨block, -, hevent⟩ | rfl := hmem
  · cases hread : readBlock d block with
    | blank | rules => simp [hread, Block.event?] at hevent
    | malformed | unknown | bodiless =>
      simp only [hread, Block.event?, Option.some.injEq] at hevent
      simp [← hevent, Event.isCall]
  · simp [Event.isCall]

private theorem Sandbox.calls_load (s : Sandbox) (identifier : String) :
    (s.load identifier).calls = [] := by
  unfold load
  split
  · rfl
  · split <;> rfl

/-- Loading libraries asks for nothing, whether they are known or not. -/
theorem Verifier.calls_ofLibraries (identifiers : List String) :
    (ofLibraries identifiers).calls = [] := by
  have hsandbox : (Sandbox.ofLibraries identifiers).calls = [] :=
    Traced.calls_foldlM_eq_nil Sandbox.calls_load Sandbox.empty identifiers
  rw [ofLibraries, Traced.calls_bind, hsandbox]
  rfl

private theorem Schema.Validator.calls_validate (validator : Validator) (payload : String) :
    (validator.validate payload).calls = [] := by
  unfold validate
  split
  · rfl
  · split
    · rfl
    · split <;> rfl

namespace Command

open Session (trace)

/-- The configuration that a command line runs under: that of its file, or the default one where it
    names none, with the settings of the environment over it. -/
def Surroundings.resolved (s : Surroundings) : Option String → Except Error Config
  | none => Config.default.withOverrides s.setting
  | some path =>
    match s.file path with
    | .ok text => (Config.ofToml text).bind fun base => base.withOverrides s.setting
    | .error cause =>
      .error (.config ("failed to read config file '" ++ path ++ "': " ++ cause))

/-- The configuration of a session is the resolved one. -/
theorem result_config (s : Surroundings) (path : Option String) :
    (s.config path).result = s.resolved path := by
  have hconfig : (s.config path).result =
      (s.baseConfig path).bind fun base => base.withOverrides s.setting := by
    simp [Surroundings.config, Config.value_resolve]
  rw [hconfig]
  cases path with
  | none => rfl
  | some path =>
    rw [Surroundings.baseConfig, Surroundings.resolved]
    cases s.file path <;> rfl

/-- A file that a command line names cannot be read. The error names the file and the cause. -/
def Surroundings.Unreadable (s : Surroundings) (path : String) (e : Error) : Prop :=
  ∃ cause, s.file path = .error cause ∧
    e = .config ("failed to read '" ++ path ++ "': " ++ cause)

/-- A file that is there is read as it is. -/
theorem Surroundings.read_of_file_eq_ok {s : Surroundings} {path text : String}
    (hfile : s.file path = .ok text) : s.read path = .ok text := by
  rw [Surroundings.read, hfile]

/-- Reading an unreadable file stops with its error. -/
theorem Surroundings.Unreadable.read_eq {s : Surroundings} {path : String} {e : Error}
    (h : s.Unreadable path e) : s.read path = .error e := by
  obtain ⟨cause, hfile, rfl⟩ := h
  rw [Surroundings.read, hfile]

/-- No unreadable file has a text. -/
theorem Surroundings.Unreadable.file_ne_ok {s : Surroundings} {path text : String} {e : Error}
    (h : s.Unreadable path e) : s.file path ≠ .ok text := by
  obtain ⟨cause, hfile, -⟩ := h
  rw [hfile]
  nofun

/-- Every file is there with a text or cannot be read. -/
theorem Surroundings.file_eq_ok_or_unreadable (s : Surroundings) (path : String) :
    (∃ text, s.file path = .ok text) ∨ ∃ e, s.Unreadable path e := by
  cases hfile : s.file path with
  | ok text => exact .inl ⟨text, rfl⟩
  | error cause => exact .inr ⟨_, cause, hfile, rfl⟩

private theorem calls_config (s : Surroundings) (path : Option String) :
    (s.config path).calls = [] := by
  apply Session.calls_bind_eq_nil (Session.calls_ofExcept _)
  intro base
  rw [Session.calls_attempt, Config.calls_resolve]

/-- The verdict of a schema file on a payload. -/
def Surroundings.validated (s : Surroundings) (path payload : String) : Except Error Unit :=
  (s.read path).bind fun text =>
    (Schema.Validator.ofText path text).bind fun validator => (validator.validate payload).value

/-- A session that validates a payload ends with the verdict of the schema file. -/
theorem result_validate (s : Surroundings) (path payload : String) :
    (validate s path payload).result = s.validated path payload := by
  simp only [validate, Surroundings.validated, Session.result_bind, Session.result_ofExcept,
    Session.result_attempt, Session.result_trace]
  congr 1
  funext text
  congr 1
  funext validator
  cases (validator.validate payload).value <;> rfl

private theorem calls_validate (s : Surroundings) (path payload : String) :
    (validate s path payload).calls = [] := by
  apply Session.calls_bind_eq_nil (Session.calls_ofExcept _)
  intro text
  apply Session.calls_bind_eq_nil (Session.calls_ofExcept _)
  intro validator
  apply Session.calls_bind_eq_nil
  · rw [Session.calls_attempt, Schema.Validator.calls_validate]
  · intro _
    rfl

/-- How a report is printed has no influence on how a command ends. -/
theorem result_printReport (json : Bool) (stamp : Stamp) (t : Traced (Except Error Report)) :
    (printReport json stamp t).result = t.value.map fun _ => () := by
  cases json <;> cases hvalue : t.value <;>
    simp [printReport, showReport, hvalue, Except.bind, Except.map]

private theorem calls_printReport (json : Bool) (stamp : Stamp) (t : Traced (Except Error Report)) :
    (printReport json stamp t).calls = t.calls := by
  cases json <;> cases hvalue : t.value <;>
    simp [printReport, showReport, hvalue, Session.calls_bind]

private theorem leadsTo_printReport (json : Bool) (stamp : Stamp)
    (t : Traced (Except Error Report)) :
    (printReport json stamp t).LeadsTo (.ok t) := by
  refine ⟨result_printReport json stamp t, ?_, nofun⟩
  rintro t ⟨⟩
  exact calls_printReport json stamp t

/-- Reading a definition and loading the libraries cannot stop a command. -/
theorem leadsTo_definition (json : Bool) (stamp : Stamp) (c : Config) (rules : String)
    (run : Verifier → Collection → Traced (Except Error Report)) :
    Session.LeadsTo
      (do
        let collection ← trace stamp (Definition.read c.delimiters rules)
        let verifier ← trace stamp (Verifier.ofLibraries c.libraries)
        printReport json stamp (run verifier collection))
      (.ok (run (Verifier.ofLibraries c.libraries).value
        (Definition.parse c.delimiters rules))) := by
  apply Session.LeadsTo.trace_bind stamp (Definition.calls_read c.delimiters rules)
  apply Session.LeadsTo.trace_bind stamp (Verifier.calls_ofLibraries c.libraries)
  exact leadsTo_printReport json stamp _

/-- A command with values of its own reaches its verification when its configuration resolves.
    Nothing else can stop it before. -/
theorem leadsTo_verify (s : Surroundings) (config : Option String) (json : Bool) (rules : String)
    (category : Category) (values : Values) :
    (verify s config json rules category values).LeadsTo
      ((s.resolved config).bind fun c => .ok ((Verifier.ofLibraries c.libraries).value.verify
        (Definition.parse c.delimiters rules) values category)) := by
  rw [← result_config]
  apply Session.LeadsTo.bind (calls_config s config)
  intro c
  exact leadsTo_definition json (s.stamp 0) c rules fun verifier collection =>
    verifier.verify collection values category

/-- The verdict of the schema that a command names, if it names one. -/
def Surroundings.conforms (s : Surroundings) (schema : Option String) (payload : String) :
    Except Error Unit :=
  match schema with
  | some path => s.validated path payload
  | none => .ok ()

/-- A command with a payload reaches its verification when its configuration resolves, the payload
    can be read and its schema, if it names one, lets the payload pass. -/
theorem leadsTo_api (s : Surroundings) (config : Option String) (json : Bool)
    (rules path contentType : String) (schema : Option String) :
    (api s config json rules path contentType schema).LeadsTo
      ((s.resolved config).bind fun c => (s.read path).bind fun payload =>
        (s.conforms schema payload).bind fun _ =>
          .ok ((Verifier.ofLibraries c.libraries).value.verifyResponse payload contentType
            (Definition.parse c.delimiters rules))) := by
  rw [← result_config]
  apply Session.LeadsTo.bind (calls_config s config)
  intro c
  apply Session.LeadsTo.bind (Session.calls_ofExcept (s.read path))
  intro payload
  have hrules := leadsTo_definition json (s.stamp 0) c rules fun verifier collection =>
    verifier.verifyResponse payload contentType collection
  cases schema with
  | none => exact hrules
  | some schema =>
    have hresult : s.conforms (some schema) payload = (validate s schema payload).result :=
      (result_validate s schema payload).symm
    rw [hresult]
    exact Session.LeadsTo.bind (calls_validate s schema payload) fun _ => hrules

end Command

end RuleVerify
