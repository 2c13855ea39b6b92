import Mathlib.Data.Finset.Card
import PageRouter.Route.Params

namespace PageRouter.Params

/-- A new name goes to the end. -/
theorem insertEntry_of_notMem {name : String} {entries : List (String × String)}
    (hname : name ∉ entries.map Prod.fst) (value : String) :
    insertEntry name value entries = entries ++ [(name, value)] := by
  induction entries with
  | nil => rfl
  | cons entry rest ih =>
    obtain ⟨key, old⟩ := entry
    rw [List.map_cons, List.mem_cons, not_or] at hname
    obtain ⟨hne, hrest⟩ := hname
    rw [insertEntry, if_neg (Ne.symm hne), ih hrest, List.cons_append]

/-- A name that is there already keeps its place, and so do all others. -/
theorem names_insertEntry_of_mem {name : String} {entries : List (String × String)}
    (hname : name ∈ entries.map Prod.fst) (value : String) :
    (insertEntry name value entries).map Prod.fst = entries.map Prod.fst := by
  induction entries with
  | nil => cases hname
  | cons entry rest ih =>
    obtain ⟨key, old⟩ := entry
    rw [insertEntry]
    by_cases hkey : key = name
    · rw [if_pos hkey, List.map_cons, List.map_cons]
    · have hrest : name ∈ rest.map Prod.fst := (List.mem_cons.1 hname).resolve_left (Ne.symm hkey)
      rw [if_neg hkey, List.map_cons, List.map_cons, ih hrest]

/-- A name that is there already keeps its place, and a new one goes to the end. -/
theorem names_insert (params : Params) (name value : String) :
    (params.insert name value).names = if name ∈ params.names then params.names else params.names ++ [name] := by
  by_cases hname : name ∈ params.names
  · rw [if_pos hname]
    exact names_insertEntry_of_mem hname value
  · rw [if_neg hname, names, insert, insertEntry_of_notMem hname, List.map_append]
    rfl

/-- Inserting never makes a name stand twice. -/
theorem nodup_names_insert {params : Params} (hnodup : params.names.Nodup) (name value : String) :
    (params.insert name value).names.Nodup := by
  rw [names_insert]
  by_cases hname : name ∈ params.names
  · rw [if_pos hname]
    exact hnodup
  · rw [if_neg hname]
    exact List.nodup_append'.2 ⟨hnodup, List.nodup_singleton name, List.disjoint_singleton.2 hname⟩

/-- Pairs that are inserted after others. -/
theorem insertAll_append (params : Params) (pairs more : List (String × String)) :
    params.insertAll (pairs ++ more) = (params.insertAll pairs).insertAll more :=
  List.foldl_append

private theorem nodup_names_insertAll {params : Params} (hnodup : params.names.Nodup) (pairs : List (String × String)) :
    (params.insertAll pairs).names.Nodup := by
  induction pairs generalizing params with
  | nil => exact hnodup
  | cons pair more ih => exact ih (nodup_names_insert hnodup pair.1 pair.2)

/-- No name stands twice in parameters that are made by insertion. -/
theorem nodup_names_ofList (pairs : List (String × String)) : (ofList pairs).names.Nodup :=
  @nodup_names_insertAll empty List.nodup_nil pairs

private theorem entries_insertAll_of_nodup {params : Params} {pairs : List (String × String)}
    (hnodup : (params.names ++ pairs.map Prod.fst).Nodup) :
    (params.insertAll pairs).entries = params.entries ++ pairs := by
  induction pairs generalizing params with
  | nil => exact (List.append_nil _).symm
  | cons pair more ih =>
    have hnew : pair.1 ∉ params.names := fun hmem =>
      List.disjoint_of_nodup_append hnodup hmem List.mem_cons_self
    have hinsert : (params.insert pair.1 pair.2).entries = params.entries ++ [pair] :=
      insertEntry_of_notMem hnew pair.2
    have hnames : (params.insert pair.1 pair.2).names = params.names ++ [pair.1] := by
      rw [names_insert, if_neg hnew]
    rw [List.map_cons, ← List.singleton_append, ← List.append_assoc, ← hnames] at hnodup
    rw [insertAll, List.foldl_cons]
    change ((params.insert pair.1 pair.2).insertAll more).entries = params.entries ++ pair :: more
    rw [ih hnodup, hinsert, List.append_assoc, List.singleton_append]

/-- Pairs with different names are inserted as they are. -/
theorem ofList_of_nodup {pairs : List (String × String)} (hnodup : (pairs.map Prod.fst).Nodup) :
    ofList pairs = ⟨pairs⟩ := by
  have hentries : (ofList pairs).entries = pairs := @entries_insertAll_of_nodup empty _ hnodup
  exact congrArg mk hentries

/-- Where no name stands twice there are as many entries as names. -/
theorem size_eq_card {params : Params} (hnodup : params.names.Nodup) : params.size = params.names.toFinset.card := by
  rw [List.toFinset_card_of_nodup hnodup, names, List.length_map, size]

/-- Where no name stands twice, the names in their order and what each of them has are all there is. -/
theorem eq_of_get?_eq {params others : Params} (hnodup : params.names.Nodup)
    (hnames : params.names = others.names) (hget : ∀ name ∈ params.names, params.get? name = others.get? name) :
    params = others := by
  have hentries : params.entries = others.entries := by
    rw [entries_eq hnodup, entries_eq (hnames ▸ hnodup), ← hnames]
    exact List.map_congr_left fun name hname => by rw [hget name hname]
  exact congrArg mk hentries

end PageRouter.Params
