import RuleVerify.Event
import RuleVerify.Text.CaseMap
import RuleVerify.Text.Quoted
import RuleVerify.Text.Split

namespace RuleVerify.Log

/-- From the least to the most that a log can hold. -/
inductive Level where
  | off
  | error
  | warn
  | info
  | debug
  | trace
deriving DecidableEq, Repr

namespace Level

def rank : Level → Nat
  | off => 0
  | error => 1
  | warn => 2
  | info => 3
  | debug => 4
  | trace => 5

def name : Level → String
  | off => "off"
  | error => "error"
  | warn => "warn"
  | info => "info"
  | debug => "debug"
  | trace => "trace"

def all : List Level := [off, error, warn, info, debug, trace]

/-- The level that a text names in any case. -/
def ofName? (text : List Char) : Option Level :=
  all.find? fun l => l.name.toList = Text.toLowerAscii text

/-- The mark of a level in a line, five characters wide and coloured. -/
def mark : Level → String
  | off => ""
  | error => "\x1b[31mERROR\x1b[0m"
  | warn => "\x1b[33m WARN\x1b[0m"
  | info => "\x1b[32m INFO\x1b[0m"
  | debug => "\x1b[34mDEBUG\x1b[0m"
  | trace => "\x1b[35mTRACE\x1b[0m"

end Level

/-- A message with named values, which a component leaves. -/
structure Entry where
  component : String
  level : Level
  message : String
  fields : List (String × String)

/-- The components that leave entries. -/
def rules : String := "trust_rules"

def eval : String := "trust_eval"

def core : String := "trust_core"

def demo : String := "demo"

/-- What is said of the verdict on an expression. -/
def recordedEntry (expression : String) : Verdict → Entry
  | .holds => ⟨core, .debug, "expression passed", [("expression", expression)]⟩
  | .fails => ⟨core, .warn, "expression evaluated false", [("expression", expression)]⟩
  | .broken reason =>
    ⟨core, .warn, "expression could not be evaluated",
      [("expression", expression), ("reason", reason)]⟩

/-- The entry of an event, if there is one. `id` names the verification that it belongs to. -/
def describe? (id : String) : Event → Option Entry
  | .configResolved d libraries => some ⟨rules, .debug, "resolved TRUST configuration",
    [("types", Text.quote d.types), ("category", Text.quote d.category),
     ("rules", Text.quote d.rules), ("libraries", Text.quoteList libraries)]⟩
  | .blockMalformed block parts => some ⟨rules, .debug,
    "dropping rule block: expected category and body",
    [("block", block), ("parts", parts.repr)]⟩
  | .blockUnknown token => some ⟨rules, .debug,
    "dropping rule block: unknown verification category", [("token", token)]⟩
  | .blockEmpty category => some ⟨rules, .debug,
    "dropping rule block: empty rule body", [("category", category.token)]⟩
  | .definitionRead n => some ⟨rules, .debug, "parsed rule definition", [("entities", n.repr)]⟩
  | .libraryLoaded name => some ⟨eval, .debug, "loaded library into sandbox",
    [("library", Text.quote name)]⟩
  | .libraryUnknown identifier => some ⟨eval, .warn,
    "unknown library; verification rules vocabulary will be limited",
    [("identifier", identifier)]⟩
  | .schemaSkipped schema => some ⟨eval, .debug, "blank payload; skipping schema validation",
    [("schema_id", schema)]⟩
  | .schemaSatisfied schema => some ⟨eval, .debug, "payload conforms to schema",
    [("schema_id", schema)]⟩
  | .schemaViolated schema n => some ⟨eval, .warn, "payload violates schema",
    [("schema_id", schema), ("violations", n.repr)]⟩
  | .payloadConforms schema => some ⟨demo, .debug, "payload conforms to schema",
    [("schema", schema)]⟩
  | .nothingToVerify category => some ⟨core, .debug,
    "no rules declared for category; nothing to verify", [("category", category.token)]⟩
  | .nothingToCapture category => some ⟨core, .debug,
    "no rules declared for category; skipping capture", [("category", category.token)]⟩
  | .noResponseRules => some ⟨core, .debug, "no API_RESPONSE rules declared; nothing to verify", []⟩
  | .captured category n => some ⟨core, .debug, "captured runtime values",
    [("category", category.token), ("captured", n.repr)]⟩
  | .responseBegun contentType n => some ⟨core, .info, "verifying API response",
    [("content_type", contentType), ("rules", n.repr)]⟩
  | .extracted query answer => some ⟨core, .debug, "extracted payload value",
    [("query", query), ("extracted", answer)]⟩
  | .verificationBegun category n => some ⟨core, .info, "verifying rules",
    [("category", category.token), ("rules", n.repr)]⟩
  | .evaluated expression (.broken reason) => some ⟨eval, .warn,
    "impossible to evaluate the expression", [("expression", expression), ("error", reason)]⟩
  | .recorded expression verdict => some (recordedEntry expression verdict)
  | .verificationEnded category evaluated failures => some ⟨core, .debug,
    "soft assertions complete",
    [("verification_id", id), ("category", category.token), ("evaluated", evaluated.repr),
     ("failure_count", failures.repr)]⟩
  | .captureAsked | .queryAsked .. | .evaluated .. => none

/-- The line of an entry: the time is faint, the names of fields are slanted. -/
def Entry.render (time : String) (e : Entry) : String :=
  "\x1b[2m" ++ time ++ "\x1b[0m " ++ e.level.mark ++ " " ++ e.message ++
    String.join (e.fields.map fun (name, value) =>
      " \x1b[3m" ++ name ++ "\x1b[0m\x1b[2m=\x1b[0m" ++ value)

/-- A limit for the components whose names begin with a text. -/
structure Directive where
  component : String
  limit : Level
deriving DecidableEq, Repr

abbrev Filter := List Directive

namespace Filter

/-- One limit for all components. -/
def ofLevel (limit : Level) : Filter := [⟨"", limit⟩]

/-- A level for all components, a component with all its entries, or a component and its level. -/
def readDirective? (text : List Char) : Option Directive :=
  match text.splitOn '=' with
  | [word] =>
    match Level.ofName? word with
    | some limit => some ⟨"", limit⟩
    | none => some ⟨String.ofList word, .trace⟩
  | [component, level] => (Level.ofName? level).map fun limit => ⟨String.ofList component, limit⟩
  | _ => none

/-- Directives between commas. No directive at all lets errors through. -/
def ofText? (text : String) : Option Filter := do
  let pieces := ((text.toList.splitOn ',').map Text.trim).filter (!·.isEmpty)
  let directives ← pieces.mapM readDirective?
  pure (if directives.isEmpty then ofLevel .error else directives)

/-- The filter of a setting. One that is missing or malformed lets warnings through. -/
def ofSetting (setting : Option String) : Filter := (setting >>= ofText?).getD (ofLevel .warn)

/-- The limit of the most specific directive for a component. -/
def limit (filter : Filter) (component : String) : Level :=
  let applicable := filter.filter fun d => d.component.toList.isPrefixOf component.toList
  let best := applicable.foldl (fun best d =>
    match best with
    | some b => if d.component.length < b.component.length then some b else some d
    | none => some d) none
  (best.map Directive.limit).getD .off

def allows (filter : Filter) (e : Entry) : Bool := e.level.rank ≤ (filter.limit e.component).rank

end Filter

/-- The line of an event, if the filter lets one through. -/
def line? (filter : Filter) (id time : String) (event : Event) : Option String :=
  (describe? id event).bind fun e => if filter.allows e then some (e.render time) else none

end RuleVerify.Log
