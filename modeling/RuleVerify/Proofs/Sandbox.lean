import RuleVerify.Proofs.Text.Blank
import RuleVerify.Sandbox

namespace RuleVerify

/-- There is one library to be found, under whatever identifier. -/
theorem Library.eq_lodash_of_resolve? {identifier : String} {library : Library}
    (hresolve : Library.resolve? identifier = some library) : library = Library.lodash := by
  simp only [Library.resolve?] at hresolve
  split at hresolve
  · cases hresolve
  · have hmem := List.mem_of_find?_eq_some hresolve
    simpa [Library.known] using hmem

namespace Sandbox

private theorem load_lodash (identifier : String) :
    (load ⟨[Library.lodash]⟩ identifier).value = ⟨[Library.lodash]⟩ := by
  unfold load
  split
  · rfl
  · rename_i library hresolve
    have hloaded : library.name ∈ loadedNames ⟨[Library.lodash]⟩ := by
      simp [Library.eq_lodash_of_resolve? hresolve, loadedNames]
    rw [if_pos hloaded, Traced.value_pure]

private theorem load_empty (identifier : String) :
    (empty.load identifier).value =
      ⟨if (Library.resolve? identifier).isSome then [Library.lodash] else []⟩ := by
  unfold load
  split
  · rename_i hresolve
    rw [hresolve]
    rfl
  · rename_i library hresolve
    rw [hresolve, Library.eq_lodash_of_resolve? hresolve]
    rfl

private theorem foldl_load_lodash (identifiers : List String) :
    identifiers.foldl (fun s identifier => (load s identifier).value) ⟨[Library.lodash]⟩ =
      ⟨[Library.lodash]⟩ := by
  induction identifiers with
  | nil => rfl
  | cons identifier identifiers ih => rw [List.foldl_cons, load_lodash, ih]

/-- The library is loaded once, if one of the identifiers means it. -/
theorem loaded_ofLibraries (identifiers : List String) :
    (ofLibraries identifiers).value.loaded =
      if identifiers.any fun identifier => (Library.resolve? identifier).isSome then
        [Library.lodash] else [] := by
  rw [ofLibraries, Traced.value_foldlM]
  induction identifiers with
  | nil => rfl
  | cons identifier identifiers ih =>
    rw [List.foldl_cons, load_empty, List.any_cons]
    cases hresolve : (Library.resolve? identifier).isSome with
    | false =>
      simp only [Bool.false_eq_true, if_false, Bool.false_or]
      exact ih
    | true => simp [foldl_load_lodash]

/-- A sandbox that names a library has loaded the one that there is, once, whatever the other
    identifiers are. -/
theorem loaded_eq_of_mem_loadedNames {identifiers : List String} {name : String}
    (hmem : name ∈ (ofLibraries identifiers).value.loadedNames) :
    (ofLibraries identifiers).value.loaded = [Library.lodash] := by
  rw [loadedNames, loaded_ofLibraries] at hmem
  rw [loaded_ofLibraries]
  split at hmem
  · rename_i hany
    rw [if_pos hany]
  · simp at hmem

/-- With the library loaded, its functions are the vocabulary. -/
theorem vocabulary_of_loaded {s : Sandbox} (hloaded : s.loaded = [Library.lodash]) (name : String) :
    s.vocabulary name = Library.lodash.functions.lookup name := by
  simp [vocabulary, hloaded]

/-- Without a semicolon at its end an expression is only trimmed. -/
theorem stripTerminator_of_not_suffix {cs : List Char} (hend : ¬ [';'] <:+ Text.trim cs) :
    stripTerminator cs = Text.trim cs := by
  have hsuffix : [';'].isSuffixOf (Text.trim cs) = false := by
    rw [Bool.eq_false_iff, ne_eq, List.isSuffixOf_iff_suffix]
    exact hend
  simp [stripTerminator, Text.dropSuffix?, hsuffix]

/-- An expression that begins with no white space and ends neither in white space nor in a semicolon
    is evaluated as it is. -/
theorem stripTerminator_of_tight {cs : List Char} (htight : Text.Tight cs)
    (hend : ¬ [';'] <:+ cs) : stripTerminator cs = cs := by
  have htrim : Text.trim cs = cs := by rw [Text.trim, htight.trimStart_eq, htight.trimEnd_eq]
  rw [stripTerminator_of_not_suffix (by rwa [htrim]), htrim]

end Sandbox

end RuleVerify
