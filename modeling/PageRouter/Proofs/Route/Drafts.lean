import PageRouter.Proofs.Route.Inserted
import PageRouter.Proofs.Route.Rebuild

namespace PageRouter

namespace Params

/-- Parameters without entries are empty. -/
theorem eq_empty_of_isEmpty {params : Params} (hempty : params.isEmpty = true) : params = .empty :=
  congrArg mk (List.isEmpty_iff.1 hempty)

end Params

namespace PathDraft

/-- What can be supplied to a draft at once. -/
inductive Supply where
  | param (name value : String)
  | params (params : Params)
  | search (search : Search)
  | hash (hash : String)

namespace Supply

/-- The pairs that are supplied. -/
def pairs : Supply → List (String × String)
  | param name value => [(name, value)]
  | params others => others.entries
  | search _ | hash _ => []

/-- The query that is supplied, if one is. -/
def search? : Supply → Option Search
  | search query => some query
  | param _ _ | params _ | hash _ => none

/-- The fragment that is supplied, if one is. -/
def hash? : Supply → Option String
  | hash fragment => some fragment
  | param _ _ | params _ | search _ => none

end Supply

/-- A draft after something was supplied to it. -/
def supply (draft : PathDraft) : Supply → PathDraft
  | .param name value => draft.param name value
  | .params params => draft.withParams params
  | .search search => draft.search search
  | .hash hash => draft.hash hash

/-- Supplies one thing after the other. -/
def supplyAll (draft : PathDraft) (supplies : List Supply) : PathDraft :=
  supplies.foldl supply draft

/-- What one call leaves of a draft: its pattern, the parameters with the new ones inserted, and a query or a fragment
that takes the place of the one before. -/
theorem supply_eq (draft : PathDraft) (supplied : Supply) :
    draft.supply supplied = {
      pattern := draft.pattern
      params := draft.params.insertAll supplied.pairs
      extras := ⟨supplied.search?.or draft.extras.search, supplied.hash?.or draft.extras.hash⟩ } := by
  cases supplied <;> rfl

/-- What a sequence of calls leaves of a draft. -/
theorem supplyAll_eq (draft : PathDraft) (supplies : List Supply) :
    draft.supplyAll supplies = {
      pattern := draft.pattern
      params := draft.params.insertAll (supplies.flatMap Supply.pairs)
      extras := ⟨(supplies.filterMap Supply.search?).getLast?.or draft.extras.search,
        (supplies.filterMap Supply.hash?).getLast?.or draft.extras.hash⟩ } := by
  induction supplies generalizing draft with
  | nil => rfl
  | cons supplied more ih =>
    have hlast {α : Type} (value? : Supply → Option α) (before : Option α) :
        ((more.filterMap value?).getLast?.or ((value? supplied).or before)) =
          ((supplied :: more).filterMap value?).getLast?.or before := by
      cases hvalue : value? supplied with
      | none => rw [List.filterMap_cons_none hvalue, Option.none_or]
      | some value =>
        rw [List.filterMap_cons_some hvalue, List.getLast?_cons]
        cases (more.filterMap value?).getLast? <;> rfl
    change (draft.supply supplied).supplyAll more = _
    rw [ih, supply_eq, ← Params.insertAll_append, hlast, hlast, List.flatMap_cons]

/-- A draft to which no parameter was supplied passes none, which makes no difference. -/
theorem build_eq (draft : PathDraft) :
    draft.build = draft.pattern.build (some draft.params) (some draft.extras) := by
  rw [build]
  split
  · next hempty => rw [Params.eq_empty_of_isEmpty hempty, Pattern.build_eq_build_some, Option.getD_none]
  · rfl

/-- Whatever is supplied to a draft, it gives the very result, be that a path or an error, that building from the
parameters gives which come about by inserting all pairs in the order of the calls, with the last query and the last
fragment. If no parameters are supplied at all, these are the empty ones, whether the template declares any or not. -/
theorem build_supplyAll (pattern : Pattern) (supplies : List Supply) :
    (pattern.draft.supplyAll supplies).build =
      pattern.build (some (.ofList (supplies.flatMap Supply.pairs)))
        (some ⟨(supplies.filterMap Supply.search?).getLast?, (supplies.filterMap Supply.hash?).getLast?⟩) := by
  have hdraft := supplyAll_eq pattern.draft supplies
  simp only [Pattern.draft, Option.or_none] at hdraft
  rw [build_eq, Pattern.draft, hdraft]
  rfl

/-- A name that is supplied again keeps its place among the names that are not declared. -/
example : (Pattern.overviewPattern.draft.supplyAll
    [.param "z" "1", .params ⟨[("a", "2"), ("y", "3")]⟩, .hash "top", .param "z" "4", .param "b" "5"]).build =
      .error (.unknownParams "/Über//:b/:a/" ["z", "y"]) := by
  decide

end PathDraft

end PageRouter
