import Mathlib.Data.List.Forall2
import RuleVerify.Proofs.Template.Reading
import RuleVerify.Proofs.Verifier.Calls

namespace RuleVerify

private theorem toLower_eq_iff {c lower upper : Char}
    (hlower : 97 ≤ lower.toNat ∧ lower.toNat ≤ 122) (hupper : upper.toNat + 32 = lower.toNat) :
    c.toLower = lower ↔ c ∈ [lower, upper] := by
  simp only [List.mem_cons, List.not_mem_nil, or_false, ← Char.toNat_inj]
  unfold Char.toLower
  split
  · rename_i hinside
    obtain ⟨hfirst, hlast⟩ := hinside
    simp only [ge_iff_le, UInt32.le_iff_toNat_le] at hfirst hlast
    simp at hfirst hlast
    rw [← Char.toNat_val]
    simp
    omega
  · rename_i houtside
    simp only [ge_iff_le, UInt32.le_iff_toNat_le] at houtside
    simp at houtside
    omega

/-- The letters of `xml` stand next to each other, each of them in either case. -/
def MentionsXml (contentType : String) : Prop :=
  ∃ before x m l after, contentType.toList = before ++ [x, m, l] ++ after ∧
    x ∈ ['x', 'X'] ∧ m ∈ ['m', 'M'] ∧ l ∈ ['l', 'L']

/-- A content type means XPath exactly when it mentions XML, wherever and in whatever case. -/
theorem ofContentType_eq_xpath_iff {contentType : String} :
    QueryLanguage.ofContentType contentType = .xpath ↔ MentionsXml contentType := by
  have hlanguage : QueryLanguage.ofContentType contentType = .xpath ↔
      ['x', 'm', 'l'] <:+: contentType.toList.map Char.toLower := by
    rw [QueryLanguage.ofContentType, ← Text.toLowerAscii, ← Text.occursIn_iff]
    split <;> simp_all
  have hx {c : Char} : c.toLower = 'x' ↔ c ∈ ['x', 'X'] := toLower_eq_iff (by decide) (by decide)
  have hm {c : Char} : c.toLower = 'm' ↔ c ∈ ['m', 'M'] := toLower_eq_iff (by decide) (by decide)
  have hl {c : Char} : c.toLower = 'l' ↔ c ∈ ['l', 'L'] := toLower_eq_iff (by decide) (by decide)
  rw [hlanguage, List.infix_map_iff]
  constructor
  · rintro ⟨mark, ⟨before, after, hsplit⟩, hmark⟩
    obtain ⟨x, rest, rfl, hxs, hrest⟩ := List.map_eq_cons_iff.mp hmark.symm
    obtain ⟨m, rest, rfl, hms, hrest⟩ := List.map_eq_cons_iff.mp hrest
    obtain ⟨l, rest, rfl, hls, hrest⟩ := List.map_eq_cons_iff.mp hrest
    rw [List.map_eq_nil_iff] at hrest
    subst hrest
    exact ⟨before, x, m, l, after, hsplit.symm, hx.mp hxs, hm.mp hms, hl.mp hls⟩
  · rintro ⟨before, x, m, l, after, hsplit, hxs, hms, hls⟩
    exact ⟨[x, m, l], ⟨before, after, hsplit.symm⟩, by simp [hx.mpr hxs, hm.mpr hms, hl.mpr hls]⟩

instance (contentType : String) : Decidable (MentionsXml contentType) :=
  decidable_of_iff _ ofContentType_eq_xpath_iff

/-- Every content type means one of the two languages. -/
theorem ofContentType_eq (contentType : String) :
    QueryLanguage.ofContentType contentType =
      if MentionsXml contentType then .xpath else .jsonPath := by
  simp only [← ofContentType_eq_xpath_iff]
  cases QueryLanguage.ofContentType contentType <;> simp

namespace Verifier

open Template (Segments)

/-- What a payload answers to a query. The content type alone says who is asked. -/
def answer (v : Verifier) (payload contentType query : String) : String :=
  if MentionsXml contentType then v.xpath query payload else v.jsonPath query payload

private theorem query_ofContentType (v : Verifier) (payload contentType query : String) :
    v.query (.ofContentType contentType) query payload = v.answer payload contentType query := by
  rw [answer, ofContentType_eq]
  split <;> rfl

/-- A query is asked and its answer is kept. -/
def queryEvents (language : QueryLanguage) (answer : String → String) (query : String) :
    List Event :=
  [.queryAsked language query, .extracted query (answer query)]

/-- The map holds the answers to the queries of a list and nothing else. -/
def Answers (values : Values) (answer : String → String) (queries : List String) : Prop :=
  ∀ query, values.get? query = if query ∈ queries then some (answer query) else none

private theorem answers_empty (answer : String → String) : Answers .empty answer [] := by
  intro query
  simp

private theorem Answers.contains_eq {values : Values} {answer : String → String}
    {queries : List String} (h : Answers values answer queries) (query : String) :
    values.contains query = queries.contains query := by
  rw [Values.contains, h query, List.contains_eq_mem]
  split <;> simp_all

private theorem Answers.insert {values : Values} {answer : String → String} {queries : List String}
    (h : Answers values answer queries) (query : String) :
    Answers (values.insert query (answer query)) answer (query :: queries) := by
  intro other
  rw [Values.get?_insert, h other]
  by_cases heq : other = query
  · simp [heq]
  · simp [heq]

private theorem addAnswer_of_mem (v : Verifier) (payload contentType : String) {values : Values}
    {asked : List String} (h : Answers values (v.answer payload contentType) asked)
    {query : String} (hasked : query ∈ asked) :
    v.addAnswer (.ofContentType contentType) payload values query = pure values := by
  simp [addAnswer, h.contains_eq, hasked]

private theorem addAnswer_of_not_mem (v : Verifier) (payload contentType : String) {values : Values}
    {asked : List String} (h : Answers values (v.answer payload contentType) asked)
    {query : String} (hasked : query ∉ asked) :
    v.addAnswer (.ofContentType contentType) payload values query =
      ⟨values.insert query (v.answer payload contentType query),
        queryEvents (.ofContentType contentType) (v.answer payload contentType) query⟩ := by
  simp [addAnswer, h.contains_eq, hasked, queryEvents, query_ofContentType]

/-- Of a row of queries those are asked that have no answer yet, each at its first appearance. -/
theorem foldlM_addAnswer (v : Verifier) (payload contentType : String) {values : Values}
    {asked : List String} (h : Answers values (v.answer payload contentType) asked)
    (queries : List String) :
    let t := queries.foldlM (v.addAnswer (.ofContentType contentType) payload) values
    Answers t.value (v.answer payload contentType) (asked ++ queries) ∧
      t.events = ((queries.filter fun query => !asked.contains query).eraseDups).flatMap
        (queryEvents (.ofContentType contentType) (v.answer payload contentType)) := by
  induction queries generalizing values asked with
  | nil => simpa using h
  | cons query queries ih =>
    by_cases hasked : query ∈ asked
    · obtain ⟨hvalue, hevents⟩ := ih h
      rw [List.foldlM_cons, v.addAnswer_of_mem payload contentType h hasked]
      refine ⟨?_, ?_⟩
      · intro other
        rw [Traced.value_bind, Traced.value_pure, hvalue other]
        congr 1
        simp only [List.mem_append, List.mem_cons, eq_iff_iff]
        constructor
        · tauto
        · rintro (hother | rfl | hother)
          · exact Or.inl hother
          · exact Or.inl hasked
          · exact Or.inr hother
      · rw [Traced.events_bind, Traced.value_pure, Traced.events_pure, List.nil_append, hevents]
        simp [hasked]
    · obtain ⟨hvalue, hevents⟩ := ih (h.insert query)
      rw [List.foldlM_cons, v.addAnswer_of_not_mem payload contentType h hasked]
      refine ⟨?_, ?_⟩
      · intro other
        rw [Traced.value_bind, hvalue other]
        congr 1
        simp only [List.mem_append, List.mem_cons, eq_iff_iff]
        tauto
      · rw [Traced.events_bind, hevents, List.filter_cons_of_pos (by simpa using hasked),
          List.eraseDups_cons, List.flatMap_cons, List.filter_filter]
        congr 4
        funext other
        rw [List.contains_cons, Bool.not_or]

/-- The queries of all rules of an entity are asked in one go. Two rules with the same query share
    its answer. -/
theorem responseValues_eq (v : Verifier) (payload contentType : String) (entity : Entity) :
    let queries := entity.rules.flatMap Template.placeholders
    let t := v.responseValues payload contentType entity
    Answers t.value (v.answer payload contentType) queries ∧
      t.events = queries.eraseDups.flatMap
        (queryEvents (.ofContentType contentType) (v.answer payload contentType)) := by
  have hfold := v.foldlM_addAnswer payload contentType (answers_empty _)
    (entity.rules.flatMap Template.placeholders)
  simpa [responseValues] using hfold

/-- What stands in the place of a name: the answer in canonical spacing. A placeholder without a
    name stays. -/
def expansion (answer : String → String) (name : List Char) : List Char :=
  if name.isEmpty then Template.placeholder name
  else Text.normalizeSpace (answer (String.ofList name)).toList

/-- With the answers to all its queries at hand, substitution expands a rule in one pass. Answers to
    the queries of other rules do not matter. -/
theorem substitute_of_answers {values : Values} {answer : String → String} {queries : List String}
    (h : Answers values answer queries) {rule : String}
    (hrule : ∀ query ∈ Template.placeholders rule, query ∈ queries)
    (hempty : "" ∉ queries) :
    Template.substitute values rule =
      String.ofList ((Template.segments rule.toList).write (expansion answer)) := by
  rw [Template.substitute_eq]
  congr 1
  apply Segments.write_congr
  intro hole hmem
  by_cases hname : hole.name = []
  · simp [Template.fill, expansion, hname, h "", hempty]
  · have hquery : String.ofList hole.name ∈ queries :=
      hrule _ (Template.mem_placeholders_of_mem_holes hmem hname)
    simp [Template.fill, expansion, hname, h (String.ofList hole.name), hquery]

private theorem empty_not_mem_placeholders (rules : List String) :
    "" ∉ rules.flatMap Template.placeholders := by
  rw [List.mem_flatMap]
  rintro ⟨rule, -, hmem⟩
  rw [Template.placeholders_eq, Segments.names] at hmem
  obtain ⟨name, hname, hempty⟩ := List.mem_map.mp hmem
  rw [String.ofList_eq_empty_iff] at hempty
  simp [hempty] at hname

/-- A rule with the answers from a payload in the place of its queries. -/
def expand (v : Verifier) (payload contentType rule : String) : String :=
  String.ofList ((Template.segments rule.toList).write (expansion (v.answer payload contentType)))

/-- What one rule is evaluated to does not depend on the other rules of its entity. -/
theorem ruleOutcomes_responseValues (v : Verifier) (payload contentType : String)
    (entity : Entity) :
    ruleOutcomes v.boolean (v.responseValues payload contentType entity).value entity.rules =
      entity.rules.map fun rule => v.boolean.outcome (v.expand payload contentType rule) := by
  have hanswers := (v.responseValues_eq payload contentType entity).1
  rw [ruleOutcomes]
  apply List.map_congr_left
  intro rule hmem
  rw [substitute_of_answers hanswers (fun query hquery => List.mem_flatMap.mpr ⟨rule, hmem, hquery⟩)
    (empty_not_mem_placeholders entity.rules), expand]

/-- The result is that of the expanded rules. Without response rules it is the empty report. -/
theorem value_verifyResponse (v : Verifier) (payload contentType : String) (c : Collection) :
    (v.verifyResponse payload contentType c).value =
      Report.result ⟨.apiResponse, (c.rules .apiResponse).map fun rule =>
        v.boolean.outcome (v.expand payload contentType rule)⟩ := by
  cases hentity : c.entity? .apiResponse with
  | none =>
    rw [verifyResponse, Collection.rules, hentity]
    rfl
  | some entity =>
    have hrules : c.rules .apiResponse = entity.rules := by rw [Collection.rules, hentity]; rfl
    rw [verifyResponse, hentity, Traced.value_bind, Traced.value_bind, value_verify, hrules,
      ruleOutcomes_responseValues]

private theorem length_failures (category : Category) (outcomes : List Outcome) :
    (Report.failures ⟨category, outcomes⟩).length =
      (outcomes.filter fun outcome => outcome.verdict ≠ .holds).length :=
  (forall₂_of_iff.mpr rfl).length_eq.symm

/-- Verifying a response is expanding each rule once and evaluating what comes out. Every rule has
    one outcome, in order; the queries are those of all rules, each asked once at its first
    appearance, in the one language that the content type means, and before any evaluation. Text
    that a query returns is never read for placeholders. -/
theorem verifyResponse_expands (v : Verifier) (payload contentType : String) {c : Collection}
    {entity : Entity} (hfirst : c.First .apiResponse entity) :
    let language : QueryLanguage := if MentionsXml contentType then .xpath else .jsonPath
    let answer : String → String := fun query =>
      if MentionsXml contentType then v.xpath query payload else v.jsonPath query payload
    ∃ readings : List Segments,
      List.Forall₂ (fun rule reading => reading.Reads rule.toList) entity.rules readings ∧
        let queries := (readings.flatMap fun reading => reading.names.map String.ofList).eraseDups
        let outcomes := readings.map fun reading =>
          BooleanEvaluator.outcome v.boolean (String.ofList (reading.write (expansion answer)))
        let failed := outcomes.filter fun outcome => outcome.verdict ≠ .holds
        Judged .apiResponse outcomes (v.verifyResponse payload contentType c) ∧
          (v.verifyResponse payload contentType c).events =
            .responseBegun contentType entity.rules.length ::
              (queries.flatMap (queryEvents language answer) ++
                .verificationBegun .apiResponse entity.rules.length ::
                  (outcomes.flatMap Outcome.events ++
                    [.verificationEnded .apiResponse outcomes.length failed.length])) := by
  intro language answer
  have hentity : c.entity? .apiResponse = some entity := Collection.entity?_eq_some_iff.mpr hfirst
  have hlanguage : QueryLanguage.ofContentType contentType = language :=
    ofContentType_eq contentType
  obtain ⟨-, hevents⟩ := v.responseValues_eq payload contentType entity
  have houtcomes := v.ruleOutcomes_responseValues payload contentType entity
  refine ⟨entity.rules.map fun rule => Template.segments rule.toList, ?_, ?_, ?_⟩
  · rw [List.forall₂_map_right_iff, List.forall₂_same]
    exact fun rule _ => Template.reads_segments rule.toList
  · apply Judged.of_result
    rw [List.map_map, value_verifyResponse, Collection.rules, hentity]
    rfl
  · have hqueries : entity.rules.flatMap Template.placeholders =
        (entity.rules.map fun rule => Template.segments rule.toList).flatMap
          fun reading => reading.names.map String.ofList := by
      rw [List.flatMap_map]
      exact List.flatMap_congr fun rule _ => Template.placeholders_eq rule
    rw [verifyResponse, hentity, Traced.events_bind, Traced.events_bind, v.verify_eq hentity,
      houtcomes, hevents, hqueries, hlanguage, length_failures, List.map_map]
    rfl

/-- The answer to `a` looks like a placeholder, and `b${a` is a query that holds an opening. The two
    languages answer differently. -/
def nestedVerifier : Verifier where
  boolean expression := .ofBool (expression == "$\x7ba\x7d x+$\x7b\x7d+b$\x7ba")
  xpath query payload := if query == "a" then payload else "?"
  jsonPath query _ := if query == "a" then " $\x7ba\x7d \n x" else query

def nestedRules : List String :=
  ["$\x7ba\x7d+$\x7b\x7d+$\x7bb$\x7ba\x7d", "$\x7ba\x7d$\x7bopen"]

def nestedCollection : Collection := ⟨[⟨.apiResponse, nestedRules⟩]⟩

/-- The same rules are expanded with the answers of one language and then of the other. An answer
    that looks like a placeholder is not read again. -/
theorem verifyResponse_expands_nested :
    nestedCollection.First .apiResponse ⟨.apiResponse, nestedRules⟩ ∧
      (MentionsXml "Application/XML" ∧
        ∃ readings : List Segments,
          List.Forall₂ (fun rule reading => reading.Reads rule.toList) nestedRules readings ∧
            Judged .apiResponse
              (readings.map fun reading =>
                BooleanEvaluator.outcome nestedVerifier.boolean (String.ofList
                  (reading.write (expansion fun query => nestedVerifier.xpath query "<p/>"))))
              (nestedVerifier.verifyResponse "<p/>" "Application/XML" nestedCollection)) ∧
      (¬ MentionsXml "text/plain" ∧
        ∃ readings : List Segments,
          List.Forall₂ (fun rule reading => reading.Reads rule.toList) nestedRules readings ∧
            Judged .apiResponse
              (readings.map fun reading =>
                BooleanEvaluator.outcome nestedVerifier.boolean (String.ofList
                  (reading.write (expansion fun query => nestedVerifier.jsonPath query "<p/>"))))
              (nestedVerifier.verifyResponse "<p/>" "text/plain" nestedCollection)) ∧
      (nestedVerifier.verifyResponse "<p/>" "Application/XML" nestedCollection).value =
        .error (.verificationFailed .apiResponse
          [⟨"<p/>+$\x7b\x7d+?", none⟩, ⟨"<p/>$\x7bopen", none⟩]) ∧
      (nestedVerifier.verifyResponse "<p/>" "text/plain" nestedCollection).value =
        .error (.verificationFailed .apiResponse [⟨"$\x7ba\x7d x$\x7bopen", none⟩]) := by
  have hfirst : nestedCollection.First .apiResponse ⟨.apiResponse, nestedRules⟩ :=
    ⟨[], [], rfl, rfl, List.not_mem_nil⟩
  have hxml : MentionsXml "Application/XML" := by decide +kernel
  have hplain : ¬ MentionsXml "text/plain" := by decide +kernel
  obtain ⟨xmlReadings, hxmlReadings, hxmlJudged, -⟩ :=
    verifyResponse_expands nestedVerifier "<p/>" "Application/XML" hfirst
  obtain ⟨plainReadings, hplainReadings, hplainJudged, -⟩ :=
    verifyResponse_expands nestedVerifier "<p/>" "text/plain" hfirst
  simp only [if_pos hxml] at hxmlJudged
  simp only [if_neg hplain] at hplainJudged
  exact ⟨hfirst, ⟨hxml, xmlReadings, hxmlReadings, hxmlJudged⟩,
    ⟨hplain, plainReadings, hplainReadings, hplainJudged⟩, by decide +kernel, by decide +kernel⟩

end Verifier

end RuleVerify
