import Mathlib.Data.Set.List
import Mathlib.Data.List.Perm.Basic
import RuleVerify.Proofs.Readers
import RuleVerify.Saved

namespace RuleVerify.Saved

open Json (Source Value)

/-- A field is read only if its name stands once. -/
theorem single?_eq_some_iff {members : List (String × Source)} {name : String} {source : Source} :
    single? members name = some source ↔
      members.filter (fun m => m.1 = name) = [(name, source)] := by
  unfold single?
  split
  · rename_i other value hfilter
    have hname : other = name := by
      have hmem : (other, value) ∈ members.filter fun m => m.1 = name := by simp [hfilter]
      simpa using List.of_mem_filter hmem
    simp [hfilter, hname]
  · rename_i hno
    constructor
    · rintro ⟨⟩
    · intro hfilter
      exact absurd hfilter (hno name source)

private theorem filter_filter_of_imp {α : Type} {p q : α → Bool} {l : List α} (h : ∀ a, p a → q a) :
    (l.filter q).filter p = l.filter p := by
  rw [List.filter_filter]
  apply List.filter_congr
  intro a _
  cases hp : p a with
  | false => rfl
  | true => simp [h a hp]

private theorem perm_filter_mem_cons {name : String} {names : List String} (hname : name ∉ names)
    (members : List (String × Source)) :
    ((members.filter fun m => m.1 = name) ++ members.filter fun m => m.1 ∈ names).Perm
      (members.filter fun m => m.1 ∈ name :: names) := by
  have hperm := List.filter_append_perm (fun m => m.1 = name)
    (members.filter fun m => m.1 ∈ name :: names)
  rw [List.filter_filter, List.filter_filter] at hperm
  convert hperm using 3 with m
  all_goals
    funext m
    by_cases heq : m.1 = name <;> simp [heq, hname]

/-- The fields are read exactly when the members with their names are one for each field, in any
    order. -/
theorem mapM_single?_eq_some_iff {names : List String} (hnames : names.Nodup)
    {members : List (String × Source)} {sources : List Source} :
    names.mapM (single? members) = some sources ↔
      sources.length = names.length ∧
        (members.filter fun m => m.1 ∈ names).Perm (names.zip sources) := by
  rw [mapM_eq_some_iff]
  simp only [single?_eq_some_iff]
  induction names generalizing sources with
  | nil => simp
  | cons name names ih =>
    obtain ⟨hname, hnames⟩ := List.nodup_cons.mp hnames
    cases sources with
    | nil => simp
    | cons source sources =>
      have hsplit := perm_filter_mem_cons hname members
      rw [List.forall₂_cons, ih hnames, List.zip_cons_cons, List.length_cons, List.length_cons,
        Nat.add_right_cancel_iff]
      constructor
      · rintro ⟨hsingle, hlength, hrest⟩
        refine ⟨hlength, hsplit.symm.trans ?_⟩
        rw [hsingle]
        exact hrest.cons _
      · rintro ⟨hlength, hperm⟩
        -- The name does not come again, so the filter by it leaves the first field alone, and that
        -- is cancelled from both sides.
        have hnone : (names.zip sources).filter (fun m => m.1 = name) = [] := by
          simp only [List.filter_eq_nil_iff, decide_eq_true_eq]
          rintro m hm rfl
          exact hname (List.of_mem_zip hm).1
        have hone := hperm.filter fun m => m.1 = name
        rw [filter_filter_of_imp fun m hm => by simpa using Or.inl (of_decide_eq_true hm),
          List.filter_cons_of_pos (by simp), hnone, List.perm_singleton] at hone
        rw [hone] at hsplit
        exact ⟨hone, hlength, (List.perm_cons _).mp (hsplit.trans hperm)⟩

/-- All names of the members have to be readable, also those that nothing reads. -/
theorem named?_eq_some_iff {members : List (Option String × Source)}
    {named : List (String × Source)} :
    named? members = some named ↔ members = named.map fun m => (some m.1, m.2) := by
  apply mapM_eq_some_iff_eq_map
  rintro ⟨name, source⟩ m
  simp [Prod.ext_iff]

/-- The members that count: those with one of the names, and those whose name cannot be read. -/
def known (names : List String) (members : List (Option String × Source)) :
    List (Option String × Source) :=
  members.filter fun m => m.1.all (· ∈ names)

private theorem known_map_some (names : List String) (members : List (String × Source)) :
    known names (members.map fun m => (some m.1, m.2)) =
      (members.filter fun m => m.1 ∈ names).map fun m => (some m.1, m.2) := by
  rw [known, List.filter_map]
  rfl

/-- Where the members that count have readable names, all members have. -/
theorem exists_named_of_perm {names : List String} {members : List (Option String × Source)}
    {fields : List (String × Source)}
    (h : (known names members).Perm (fields.map fun m => (some m.1, m.2))) :
    ∃ named : List (String × Source), members = named.map fun m => (some m.1, m.2) := by
  have hrange : ∀ m ∈ members, m ∈ Set.range fun m : String × Source => (some m.1, m.2) := by
    rintro ⟨_ | name, source⟩ hm
    · have hknown : (none, source) ∈ known names members := List.mem_filter.mpr ⟨hm, rfl⟩
      simpa using h.mem_iff.mp hknown
    · exact ⟨(name, source), rfl⟩
  have hmem : members ∈ Set.range (List.map fun m : String × Source => (some m.1, m.2)) := by
    rw [Set.range_list_map]
    exact hrange
  obtain ⟨named, hnamed⟩ := hmem
  exact ⟨named, hnamed.symm⟩

/-- An object gives the fields of a structure exactly when its members under their names are one for
    each, in any order. Members with other names may stand between them. -/
theorem fields?_object_eq_some_iff {names : List String} (hnames : names.Nodup)
    {members : List (Option String × Source)} {sources : List Source} :
    fields? names (.object members) = some sources ↔
      sources.length = names.length ∧
        (known names members).Perm ((names.map some).zip sources) := by
  have hzip : (names.map some).zip sources =
      (names.zip sources).map fun m => (some m.1, m.2) := by
    rw [List.zip_map_left]
    rfl
  have hinjective : Function.Injective fun m : String × Source => (some m.1, m.2) := by
    rintro ⟨name, source⟩ ⟨name', source'⟩ heq
    simpa using heq
  rw [hzip, fields?, Option.bind_eq_bind, Option.bind_eq_some_iff]
  constructor
  · rintro ⟨named, hnamed, hfields⟩
    obtain ⟨hlength, hperm⟩ := (mapM_single?_eq_some_iff hnames).mp hfields
    rw [named?_eq_some_iff.mp hnamed, known_map_some]
    exact ⟨hlength, hperm.map _⟩
  · rintro ⟨hlength, hperm⟩
    obtain ⟨named, rfl⟩ := exists_named_of_perm hperm
    rw [known_map_some, List.map_perm_map_iff hinjective] at hperm
    exact ⟨named, named?_eq_some_iff.mpr rfl,
      (mapM_single?_eq_some_iff hnames).mpr ⟨hlength, hperm⟩⟩

private theorem string?_eq_some_iff {source : Source} {text : String} :
    string? source = some text ↔ source = .string (some text) := by
  cases source <;> simp [string?]

/-- A list is read exactly from an array each of whose items is. -/
theorem list?_eq_some_iff {α : Type} {read : Source → Option α} {source : Source} {xs : List α} :
    list? read source = some xs ↔
      ∃ items, source = .array items ∧
        List.Forall₂ (fun item x => read item = some x) items xs := by
  cases source <;> simp [list?, mapM_eq_some_iff]

/-- Texts are read from exactly one array. -/
theorem list?_string?_eq_some_iff {source : Source} {texts : List String} :
    list? string? source = some texts ↔
      source = .array (texts.map fun text => .string (some text)) := by
  have hitems (items : List Source) : items.mapM string? = some texts ↔
      items = texts.map fun text => .string (some text) :=
    mapM_eq_some_iff_eq_map fun _ _ => string?_eq_some_iff
  cases source <;> simp [list?, hitems]

/-- A name that stands as the only member of an object, with null, as a string. -/
def untagged : Source → Source
  | .object [(name, .null)] => .string name
  | source => source

/-- A name may stand as a string, or in an object as the only name and with null behind it. -/
theorem name?_eq_some_iff {source : Source} {name : String} :
    name? source = some name ↔ untagged source = .string (some name) := by
  unfold name? untagged
  split <;> split <;> simp_all

def isArray : Source → Bool
  | .array _ => true
  | _ => false

/-- An object without the members that do not count. -/
def keepOnly (names : List String) : Source → Source
  | .object members => .object (known names members)
  | source => source

/-- An array with every item changed. -/
def mapItems (f : Source → Source) : Source → Source
  | .array items => .array (items.map f)
  | source => source

def mapMember (name : String) (f : Source → Source) (m : Option String × Source) :
    Option String × Source :=
  if m.1 = some name then (m.1, f m.2) else m

/-- An object with what stands under a name changed. -/
def mapField (name : String) (f : Source → Source) : Source → Source
  | .object members => .object (members.map (mapMember name f))
  | source => source

@[simp]
theorem mapMember_same (name : String) (f : Source → Source) (source : Source) :
    mapMember name f (some name, source) = (some name, f source) := if_pos rfl

theorem mapMember_other {name other : String} (h : other ≠ name) (f : Source → Source)
    (source : Source) : mapMember name f (some other, source) = (some other, source) :=
  if_neg (by simpa using h)

@[simp]
theorem mapMember_fst (name : String) (f : Source → Source) (m : Option String × Source) :
    (mapMember name f m).1 = m.1 := by
  unfold mapMember
  split <;> rfl

/-- Changing items makes an array only of an array. -/
theorem mapItems_eq_array_iff {f : Source → Source} {source : Source} {items : List Source} :
    mapItems f source = .array items ↔ ∃ items', source = .array items' ∧ items'.map f = items := by
  cases source <;> simp [mapItems]

/-- A single member under the name was a single member before. -/
theorem map_mapMember_eq_singleton_iff {name : String} {f : Source → Source}
    {members : List (Option String × Source)} {source : Source} :
    members.map (mapMember name f) = [(some name, source)] ↔
      ∃ source', members = [(some name, source')] ∧ f source' = source := by
  constructor
  · intro h
    obtain ⟨⟨n, source'⟩, rest, rfl, hmember, hnil⟩ := List.map_eq_cons_iff.mp h
    obtain rfl := List.map_eq_nil_iff.mp hnil
    obtain rfl : n = some name := by simpa using congrArg Prod.fst hmember
    rw [mapMember_same, Prod.mk.injEq] at hmember
    exact ⟨source', rfl, hmember.2⟩
  · rintro ⟨source', rfl, rfl⟩
    simp

/-- A list can be reordered before its items are changed as well as after. -/
theorem map_perm_iff {α β : Type} {f : α → β} {l : List α} {l' : List β} :
    (l.map f).Perm l' ↔ ∃ l'', l.Perm l'' ∧ l''.map f = l' := by
  constructor
  · intro h
    have hmap : List.Forall₂ (fun b a => b = f a) (l.map f) l := by
      simp [List.forall₂_map_left_iff, List.forall₂_same]
    obtain ⟨l'', heq, hperm⟩ := List.perm_comp_forall₂ h.symm hmap
    rw [← List.forall₂_map_right_iff, List.forall₂_eq_eq_eq] at heq
    exact ⟨l'', hperm.symm, heq.symm⟩
  · rintro ⟨l'', hperm, rfl⟩
    exact hperm.map f

mutual

/-- The values differ in nothing but the order of members, at any depth. -/
inductive Reordered : Source → Source → Prop where
  | null : Reordered .null .null
  | boolean (b : Bool) : Reordered (.boolean b) (.boolean b)
  | number (value : Option Value) : Reordered (.number value) (.number value)
  | string (text : Option String) : Reordered (.string text) (.string text)
  | array {items items' : List Source} (h : List.Forall₂ Reordered items items') :
    Reordered (.array items) (.array items')
  | object {members middle members' : List (Option String × Source)}
    (horder : members.Perm middle) (h : List.Forall₂ ReorderedMember middle members') :
    Reordered (.object members) (.object members')

inductive ReorderedMember : Option String × Source → Option String × Source → Prop where
  | value (name : Option String) {source source' : Source} (h : Reordered source source') :
    ReorderedMember (name, source) (name, source')

end

variable {source : Source} {items : List Source} {members : List (Option String × Source)}

/-- The items of an array keep their order and may be reordered inside. -/
theorem reordered_array_iff :
    Reordered source (.array items) ↔
      ∃ items', source = .array items' ∧ List.Forall₂ Reordered items' items := by
  constructor
  · rintro ⟨⟩
    exact ⟨_, rfl, ‹_›⟩
  · rintro ⟨items', rfl, h⟩
    exact .array h

/-- The members of an object may be in any order and may be reordered inside. -/
theorem reordered_object_iff :
    Reordered source (.object members) ↔
      ∃ members' middle, source = .object members' ∧ members'.Perm middle ∧
        List.Forall₂ ReorderedMember middle members := by
  constructor
  · rintro ⟨⟩
    exact ⟨_, _, rfl, ‹_›, ‹_›⟩
  · rintro ⟨members', middle, rfl, horder, h⟩
    exact .object horder h

/-- A member keeps its name. -/
theorem reorderedMember_iff {member : Option String × Source} {name : Option String} :
    ReorderedMember member (name, source) ↔
      ∃ source', member = (name, source') ∧ Reordered source' source := by
  constructor
  · rintro ⟨⟩
    exact ⟨_, rfl, ‹_›⟩
  · rintro ⟨source', rfl, h⟩
    exact .value name h

theorem reordered_string_iff {text : Option String} :
    Reordered source (.string text) ↔ source = .string text := by
  constructor
  · rintro ⟨⟩
    rfl
  · rintro rfl
    exact .string text

/-- There is nothing to reorder in an array of strings. -/
theorem reordered_strings_iff {texts : List String} :
    Reordered source (.array (texts.map fun text => .string (some text))) ↔
      source = .array (texts.map fun text => .string (some text)) := by
  rw [reordered_array_iff]
  simp only [List.forall₂_map_right_iff, reordered_string_iff]
  simp only [← List.forall₂_map_right_iff, List.forall₂_eq_eq_eq, exists_eq_right]

end RuleVerify.Saved
