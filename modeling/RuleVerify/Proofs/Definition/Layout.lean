import RuleVerify.Proofs.Definition.Block

namespace RuleVerify.Definition

open Text (OnlyAtJoints)

/-- A block before it is written. Its token names a category, in any case and with any white space
    around it; of its pieces the first and the last are not blank. -/
structure Layout where
  token : List Char
  category : Category
  pieces : List (List Char)
  ofToken?_token : Category.ofToken? token = some category
  pieces_ne_nil : pieces ≠ []
  head_not_blank : Text.allBlank (pieces.head pieces_ne_nil) = false
  last_not_blank : Text.allBlank (pieces.getLast pieces_ne_nil) = false

namespace Layout

def body (d : Delimiters) (layout : Layout) : List Char :=
  List.intercalate d.rules.toList layout.pieces

def text (d : Delimiters) (layout : Layout) : List Char :=
  layout.token ++ d.category.toList ++ layout.body d

/-- The pieces that are not blank, without the white space around them. -/
def declarations (layout : Layout) : List (Category × String) :=
  (layout.pieces.filter fun piece => !Text.allBlank piece).map fun piece =>
    (layout.category, String.ofList (Text.trim piece))

private theorem allBlank_body (d : Delimiters) (layout : Layout) :
    Text.allBlank (layout.body d) = false :=
  Text.allBlank_intercalate_of_mem (List.head_mem layout.pieces_ne_nil) layout.head_not_blank

private theorem allBlank_text (d : Delimiters) (layout : Layout) :
    Text.allBlank (layout.text d) = false := by
  simp [text, allBlank_body]

/-- A block whose delimiters occur only where they were written contributes its pieces. -/
theorem contribution_text {d : Delimiters} {layout : Layout} (hcategory : d.category ≠ "")
    (hrules : d.rules ≠ "") (htoken : OnlyAtJoints d.category.toList [layout.token, layout.body d])
    (hpieces : OnlyAtJoints d.rules.toList layout.pieces) :
    contribution d (layout.text d) = layout.declarations := by
  have hparts := Text.map_trim_splitOn_trim_intercalate (by simpa using hcategory) (by simp) htoken
    (allBlank_eq_false_of_ofToken? layout.ofToken?_token) (layout.allBlank_body d)
  have htext : List.intercalate d.category.toList [layout.token, layout.body d] =
      layout.text d := by
    simp [text]
  rw [htext, List.map_cons, List.map_singleton, List.map_eq_cons_iff] at hparts
  obtain ⟨token, rest, hsplit, htokenTrim, hrest⟩ := hparts
  obtain ⟨body, rfl, hbodyTrim⟩ := List.map_eq_singleton_iff.mp hrest
  have hbody : Text.allBlank body = false := by
    rw [← Text.allBlank_trim, hbodyTrim, Text.allBlank_trim, allBlank_body]
  have hcut : (Text.splitOn d.rules.toList (Text.trim body)).map Text.trim =
      layout.pieces.map Text.trim := by
    rw [hbodyTrim]
    exact Text.map_trim_splitOn_trim_intercalate (by simpa using hrules) layout.pieces_ne_nil
      hpieces layout.head_not_blank layout.last_not_blank
  have hread : readBlock d (layout.text d) = .rules layout.category (bodyRules d body) := by
    rw [readBlock, allBlank_text, hsplit]
    simp [ofToken?_eq_of_trim_eq htokenTrim, layout.ofToken?_token, hbody]
  rw [contribution, hread, bodyRules_eq hcut, Block.declarations, List.map_map, declarations]
  rfl

end Layout

/-- The blocks joined by the types delimiter. -/
def written (d : Delimiters) (layouts : List Layout) : String :=
  String.ofList (List.intercalate d.types.toList (layouts.map (Layout.text d)))

/-- A definition in which the delimiters occur only where they were written is read as the rules
    that were written: every piece that is not blank is appended to its category, in order. The
    delimiters may overlap themselves, and may begin or end with white space. -/
theorem parse_written (d : Delimiters) (layouts : List Layout) (hlayouts : layouts ≠ [])
    (htypes : d.types ≠ "") (hcategory : d.category ≠ "") (hrules : d.rules ≠ "")
    (hblocks : OnlyAtJoints d.types.toList (layouts.map (Layout.text d)))
    (htokens : ∀ layout ∈ layouts,
      OnlyAtJoints d.category.toList [layout.token, layout.body d])
    (hpieces : ∀ layout ∈ layouts, OnlyAtJoints d.rules.toList layout.pieces) :
    parse d (written d layouts) =
      Collection.empty.appendAll (layouts.flatMap Layout.declarations) := by
  have htexts : layouts.map (Layout.text d) ≠ [] := by simpa using hlayouts
  have hnotBlank : ∀ text ∈ layouts.map (Layout.text d), Text.allBlank text = false := by
    intro text hmem
    obtain ⟨layout, -, rfl⟩ := List.mem_map.mp hmem
    exact layout.allBlank_text d
  have hcut := Text.map_trim_splitOn_trim_intercalate (by simpa using htypes) htexts hblocks
    (hnotBlank _ (List.head_mem htexts)) (hnotBlank _ (List.getLast_mem htexts))
  rw [parse_eq_appendAll, blocks, written, String.toList_ofList, flatMap_contribution_eq hcut,
    List.flatMap_map]
  congr 1
  apply List.flatMap_congr
  intro layout hmem
  exact Layout.contribution_text hcategory hrules (htokens layout hmem) (hpieces layout hmem)

/-- Two blocks of one category around a block of another. A token and a body begin and end with
    white space, and one piece is blank. -/
def Layout.interleaved : List Layout :=
  [⟨"\t ui_Alert ".toList, .uiAlert, [" a#".toList, " ".toList, "b\n".toList],
      by decide, by decide, by decide, by decide⟩,
    ⟨"UI_ERROR".toList, .uiError, ["x".toList], by decide, by decide, by decide, by decide⟩,
    ⟨" Ui_aLERT".toList, .uiAlert, ["a ".toList], by decide, by decide, by decide, by decide⟩]

/-- Blocks of two categories take turns, with white space, blank pieces and tokens in mixed case. -/
theorem parse_written_interleaved :
    OnlyAtJoints " ## ".toList (Layout.interleaved.map (Layout.text ⟨" ## ", ":  ", ";  "⟩)) ∧
      (∀ layout ∈ Layout.interleaved,
        OnlyAtJoints ":  ".toList [layout.token, layout.body ⟨" ## ", ":  ", ";  "⟩]) ∧
      (∀ layout ∈ Layout.interleaved, OnlyAtJoints ";  ".toList layout.pieces) ∧
      parse ⟨" ## ", ":  ", ";  "⟩ "\t ui_Alert :   a#;   ;  b\n ## UI_ERROR:  x ##  Ui_aLERT:  a " =
        ⟨[⟨.uiAlert, ["a#", "b", "a"]⟩, ⟨.uiError, ["x"]⟩]⟩ := by
  have hblocks : OnlyAtJoints " ## ".toList
      (Layout.interleaved.map (Layout.text ⟨" ## ", ":  ", ";  "⟩)) := by decide +kernel
  have htokens : ∀ layout ∈ Layout.interleaved,
      OnlyAtJoints ":  ".toList [layout.token, layout.body ⟨" ## ", ":  ", ";  "⟩] := by
    decide +kernel
  have hpieces : ∀ layout ∈ Layout.interleaved, OnlyAtJoints ";  ".toList layout.pieces := by
    decide +kernel
  have hparse := parse_written ⟨" ## ", ":  ", ";  "⟩ Layout.interleaved (by decide) (by decide)
    (by decide) (by decide) hblocks htokens hpieces
  refine ⟨hblocks, htokens, hpieces, Eq.trans ?_ (hparse.trans ?_)⟩
  · decide +kernel
  · decide +kernel

end RuleVerify.Definition
