import Mathlib.Data.List.Induction
import PageRouter.Proofs.Route.Inserted

namespace PageRouter

private theorem eraseDups_concat {α : Type} [DecidableEq α] (list : List α) (a : α) :
    (list ++ [a]).eraseDups = if a ∈ list then list.eraseDups else list.eraseDups ++ [a] := by
  rw [List.eraseDups_append]
  by_cases ha : a ∈ list <;> simp [List.removeAll, List.eraseDups_cons, ha]

namespace Params

/-- Parameters that come of inserting pairs, in this order, into empty ones: one at a time, or several collected at
once and others after them. -/
inductive MadeOf : Params → List (String × String) → Prop
  | empty : MadeOf .empty []
  | ofList (pairs : List (String × String)) : MadeOf (.ofList pairs) pairs
  | insert {params : Params} {pairs : List (String × String)} (hmade : MadeOf params pairs) (name value : String) :
    MadeOf (params.insert name value) (pairs ++ [(name, value)])

/-- The value that the last pair with a name has. -/
def lastValue? (pairs : List (String × String)) (name : String) : Option String :=
  ((pairs.filter (·.1 = name)).map Prod.snd).getLast?

private theorem lastValue?_concat (pairs : List (String × String)) (name value key : String) :
    lastValue? (pairs ++ [(name, value)]) key = if key = name then some value else lastValue? pairs key := by
  rw [lastValue?, List.filter_append, List.map_append]
  by_cases hkey : key = name
  · simp [hkey]
  · simp [lastValue?, hkey, Ne.symm hkey]

/-- A name has no value if no pair has that name. -/
theorem lastValue?_eq_none_iff {pairs : List (String × String)} {name : String} :
    lastValue? pairs name = none ↔ name ∉ pairs.map Prod.fst := by
  rw [lastValue?, List.getLast?_eq_none_iff, List.map_eq_nil_iff, List.filter_eq_nil_iff, List.mem_map, not_exists]
  simp only [decide_eq_true_eq, not_and]

private theorem ofList_concat (pairs : List (String × String)) (name value : String) :
    ofList (pairs ++ [(name, value)]) = (ofList pairs).insert name value :=
  insertAll_append empty pairs [(name, value)]

/-- Collecting pairs comes to the same as inserting them one at a time. -/
theorem MadeOf.eq_ofList {params : Params} {pairs : List (String × String)} (h : params.MadeOf pairs) :
    params = .ofList pairs := by
  induction h with
  | empty => rfl
  | ofList pairs => rfl
  | insert _ name value ih => rw [ofList_concat, ih]

/-- The names stand in the order in which they were first inserted. -/
theorem names_ofList (pairs : List (String × String)) : (ofList pairs).names = (pairs.map Prod.fst).eraseDups := by
  induction pairs using List.reverseRecOn with
  | nil => rfl
  | append_singleton pairs pair ih =>
    rw [ofList_concat, names_insert, ih, List.map_append, List.map_singleton, eraseDups_concat]
    simp only [List.mem_eraseDups]

/-- A name has what was inserted under it last. -/
theorem get?_ofList (pairs : List (String × String)) (name : String) :
    (ofList pairs).get? name = lastValue? pairs name := by
  induction pairs using List.reverseRecOn with
  | nil => rfl
  | append_singleton pairs pair ih => rw [ofList_concat, get?_insert, lastValue?_concat, ih]

private theorem size_ofList (pairs : List (String × String)) :
    (ofList pairs).size = (pairs.map Prod.fst).toFinset.card := by
  have hsame : (pairs.map Prod.fst).eraseDups.toFinset = (pairs.map Prod.fst).toFinset := by
    ext name
    rw [List.mem_toFinset, List.mem_toFinset, List.mem_eraseDups]
  rw [size_eq_card (nodup_names_ofList pairs), names_ofList, hsame]

/-- Insertions are told apart by nothing but the order in which names came first and the values that came last. -/
theorem ofList_eq_ofList_iff {pairs others : List (String × String)} :
    ofList pairs = ofList others ↔ (pairs.map Prod.fst).eraseDups = (others.map Prod.fst).eraseDups ∧
      ∀ name, lastValue? pairs name = lastValue? others name := by
  simp only [← names_ofList, ← get?_ofList]
  constructor
  · intro heq
    rw [heq]
    exact ⟨rfl, fun _ => rfl⟩
  · rintro ⟨hnames, hget⟩
    exact eq_of_get?_eq (nodup_names_ofList pairs) hnames fun name _ => hget name

/-- Parameters that come of inserting pairs into empty ones have the different names of the pairs in the order in which
these came first, as many entries as there are different names, and under each name the value that came with it last,
which is none for a name that never came. Two sequences of insertions give equal parameters exactly if their names
came first in the same order and the same values came last. -/
theorem madeOf_isOrderedMap {params : Params} {pairs : List (String × String)} (h : params.MadeOf pairs) :
    params.names = (pairs.map Prod.fst).eraseDups ∧
    (∀ name, params.get? name = lastValue? pairs name) ∧
    (∀ name, params.get? name = none ↔ name ∉ pairs.map Prod.fst) ∧
    params.size = (pairs.map Prod.fst).toFinset.card ∧
    ∀ (others : Params) (more : List (String × String)), others.MadeOf more →
      (params = others ↔ (pairs.map Prod.fst).eraseDups = (more.map Prod.fst).eraseDups ∧
        ∀ name, lastValue? pairs name = lastValue? more name) := by
  obtain rfl := h.eq_ofList
  refine ⟨names_ofList pairs, get?_ofList pairs, fun name => ?_, size_ofList pairs, fun others more hothers => ?_⟩
  · rw [get?_ofList, lastValue?_eq_none_iff]
  · obtain rfl := hothers.eq_ofList
    exact ofList_eq_ofList_iff

/-- Parameters of which one name was inserted three times, between others. -/
def overwrittenParams : Params :=
  ((ofList [("b", "1"), ("a", "2"), ("b", "")]).insert "c" "4").insert "b" "3"

/-- The name keeps its first place and has its last value, as if it had been inserted with this value alone. -/
theorem madeOf_isOrderedMap_overwrittenParams :
    overwrittenParams.MadeOf [("b", "1"), ("a", "2"), ("b", ""), ("c", "4"), ("b", "3")] ∧
    overwrittenParams.names = ["b", "a", "c"] ∧
    overwrittenParams.get? "b" = some "3" ∧
    overwrittenParams.get? "d" = none ∧
    overwrittenParams.size = 3 ∧
    overwrittenParams = ofList [("b", "3"), ("a", "2"), ("c", "4")] := by
  have hmade : overwrittenParams.MadeOf [("b", "1"), ("a", "2"), ("b", ""), ("c", "4"), ("b", "3")] :=
    ((MadeOf.ofList [("b", "1"), ("a", "2"), ("b", "")]).insert "c" "4").insert "b" "3"
  obtain ⟨hnames, hget, habsent, hsize, hequal⟩ := madeOf_isOrderedMap hmade
  refine ⟨hmade, hnames, hget "b", (habsent "d").2 (by decide), hsize, ?_⟩
  refine (hequal _ _ (.ofList [("b", "3"), ("a", "2"), ("c", "4")])).2 ⟨by decide, fun name => ?_⟩
  by_cases hb : "b" = name
  · subst hb
    decide
  · simp [lastValue?, List.filter_cons, hb]

end Params

end PageRouter
