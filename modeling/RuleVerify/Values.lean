namespace RuleVerify

/-- Sets the value of a name, in place if it has one already. -/
def putEntry (name value : String) : List (String × String) → List (String × String)
  | [] => [(name, value)]
  | (n, v) :: entries =>
    if n = name then (n, value) :: entries else (n, v) :: putEntry name value entries

private theorem mem_names_putEntry {name value n : String} {entries : List (String × String)} :
    n ∈ (putEntry name value entries).map Prod.fst ↔ n = name ∨ n ∈ entries.map Prod.fst := by
  induction entries with
  | nil => simp [putEntry]
  | cons entry entries ih =>
    obtain ⟨m, v⟩ := entry
    by_cases h : m = name
    · subst h
      simp [putEntry]
    · simp only [putEntry, if_neg h, List.map_cons, List.mem_cons, ih]
      grind

private theorem nodup_putEntry {name value : String} {entries : List (String × String)}
    (hnodup : (entries.map Prod.fst).Nodup) :
    ((putEntry name value entries).map Prod.fst).Nodup := by
  induction entries with
  | nil => simp [putEntry]
  | cons entry entries ih =>
    obtain ⟨m, v⟩ := entry
    by_cases h : m = name
    · simpa [putEntry, h] using hnodup
    · simp only [List.map_cons, List.nodup_cons] at hnodup
      simp only [putEntry, if_neg h, List.map_cons, List.nodup_cons, mem_names_putEntry]
      exact ⟨by grind, ih hnodup.2⟩

private theorem lookup_putEntry {name value n : String} {entries : List (String × String)} :
    (putEntry name value entries).lookup n = if n = name then some value else entries.lookup n := by
  induction entries with
  | nil => grind [putEntry]
  | cons entry entries ih =>
    obtain ⟨m, v⟩ := entry
    by_cases h : m = name <;> by_cases hn : n = m <;> grind [putEntry]

/-- Names with their values. No name has two values. -/
structure Values where
  entries : List (String × String)
  nodup : (entries.map Prod.fst).Nodup

namespace Values

def empty : Values := ⟨[], List.nodup_nil⟩

/-- Sets the value of a name. A name that is new comes last. -/
def insert (values : Values) (name value : String) : Values :=
  ⟨putEntry name value values.entries, nodup_putEntry values.nodup⟩

/-- Later entries win over earlier ones of the same name. -/
def ofList (entries : List (String × String)) : Values :=
  entries.foldl (fun values entry => values.insert entry.1 entry.2) empty

def get? (values : Values) (name : String) : Option String := values.entries.lookup name

def contains (values : Values) (name : String) : Bool := (values.get? name).isSome

def isEmpty (values : Values) : Bool := values.entries.isEmpty

def size (values : Values) : Nat := values.entries.length

/-- The empty map has no value under any name. -/
@[simp] theorem get?_empty (name : String) : empty.get? name = none := rfl

/-- Setting the value of a name leaves the values of all other names. -/
@[simp] theorem get?_insert (values : Values) (name value n : String) :
    (values.insert name value).get? n = if n = name then some value else values.get? n :=
  lookup_putEntry

end Values

end RuleVerify
