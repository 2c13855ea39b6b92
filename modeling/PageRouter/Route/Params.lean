namespace PageRouter

/-- Parameters of a route: names with values, in a definite order. -/
structure Params where
  entries : List (String × String) := []
  deriving DecidableEq, Repr, Inhabited

namespace Params

def empty : Params := ⟨[]⟩

/-- Puts a value under a name in a list of entries. -/
def insertEntry (name value : String) : List (String × String) → List (String × String)
  | [] => [(name, value)]
  | (key, old) :: rest =>
    if key = name then (key, value) :: rest else (key, old) :: insertEntry name value rest

/-- Puts a value under a name: in place of the old one, or else at the end. -/
def insert (params : Params) (name value : String) : Params :=
  ⟨insertEntry name value params.entries⟩

def insertAll (params : Params) (pairs : List (String × String)) : Params :=
  pairs.foldl (fun params pair => params.insert pair.1 pair.2) params

/-- The parameters that inserting the pairs one after the other gives. -/
def ofList (pairs : List (String × String)) : Params :=
  empty.insertAll pairs

def get? (params : Params) (name : String) : Option String :=
  params.entries.lookup name

def contains (params : Params) (name : String) : Bool :=
  (params.get? name).isSome

def names (params : Params) : List String :=
  params.entries.map (·.1)

def size (params : Params) : Nat :=
  params.entries.length

def isEmpty (params : Params) : Bool :=
  params.entries.isEmpty

private theorem lookup_entry (name value key : String) (rest : List (String × String)) :
    ((name, value) :: rest).lookup key = if key = name then some value else rest.lookup key := by
  rw [List.lookup_cons]
  by_cases h : key = name
  · simp [h]
  · simp [h, beq_eq_false_iff_ne.2 h]

private theorem lookup_insertEntry (name value key : String) (entries : List (String × String)) :
    (insertEntry name value entries).lookup key =
      if key = name then some value else entries.lookup key := by
  induction entries with
  | nil => rw [insertEntry, lookup_entry]
  | cons entry rest ih =>
    obtain ⟨k, v⟩ := entry
    unfold insertEntry
    by_cases hk : k = name
    · subst hk
      by_cases h : key = k <;> simp [lookup_entry, h]
    · by_cases h : key = k
      · subst h
        simp [hk]
      · simp [lookup_entry, h, hk, ih]

/-- After an insertion the name has the new value and every other name its old one. -/
theorem get?_insert (params : Params) (name value key : String) :
    (params.insert name value).get? key = if key = name then some value else params.get? key :=
  lookup_insertEntry name value key params.entries

private theorem lookup_of_mem {entries : List (String × String)} (hnodup : (entries.map Prod.fst).Nodup)
    {name value : String} (hentry : (name, value) ∈ entries) : entries.lookup name = some value := by
  induction entries with
  | nil => cases hentry
  | cons entry rest ih =>
    obtain ⟨key, held⟩ := entry
    rw [List.map_cons, List.nodup_cons] at hnodup
    obtain ⟨hnew, hrest⟩ := hnodup
    rw [lookup_entry]
    rcases List.mem_cons.1 hentry with heq | hlater
    · cases heq
      rw [if_pos rfl]
    · have hne : name ≠ key := fun heq => hnew (List.mem_map.2 ⟨_, hlater, heq⟩)
      rw [if_neg hne, ih hrest hlater]

theorem contains_eq_true_iff {params : Params} {name : String} :
    params.contains name = true ↔ name ∈ params.names := by
  rw [contains, get?, List.lookup_isSome_iff, names, List.mem_map]
  simp only [beq_iff_eq, eq_comm (b := name)]

/-- Where no name stands twice, a name has the value that stands next to it. -/
theorem get?_of_mem {params : Params} (hnodup : params.names.Nodup) {name value : String}
    (hentry : (name, value) ∈ params.entries) : params.get? name = some value :=
  lookup_of_mem hnodup hentry

theorem entries_eq {params : Params} (hnodup : params.names.Nodup) :
    params.entries = params.names.map fun name => (name, (params.get? name).getD "") := by
  rw [names, List.map_map]
  have hself : ∀ entry ∈ params.entries, entry = (entry.1, (params.get? entry.1).getD "") := by
    intro entry hentry
    rw [get?_of_mem hnodup hentry, Option.getD_some]
  have hmap := List.map_congr_left (f := id) (g := fun entry => (entry.1, (params.get? entry.1).getD "")) hself
  rw [List.map_id] at hmap
  exact hmap

end Params

end PageRouter
