import PageRouter.Proofs.Route.Address
import PageRouter.Proofs.Route.Drafts
import PageRouter.Proofs.Route.Refusal
import PageRouter.Session.Stored

namespace PageRouter

namespace Params

/-- Parameters that can be had. A text that they are read from must not repeat a name. -/
inductive Obtained : Params → Prop
  | empty : Obtained .empty
  | insert {params : Params} (hparams : Obtained params) (name value : String) : Obtained (params.insert name value)
  | ofList (pairs : List (String × String)) : Obtained (.ofList pairs)
  | extract {pattern : Pattern} {path : String} {params : Params} (hextract : pattern.extract path = some params) :
    Obtained params
  | read {text : String} {pairs : List (String × String)}
    (hread : (JsonValue.parse? text).bind ofJson? = some ⟨pairs⟩) (hdistinct : (pairs.map Prod.fst).Nodup) :
    Obtained ⟨pairs⟩

private theorem Obtained.nodup {params : Params} (h : params.Obtained) : params.names.Nodup := by
  induction h with
  | empty => exact List.nodup_nil
  | insert _ name value ih => exact nodup_names_insert ih name value
  | ofList pairs => exact nodup_names_ofList pairs
  | @extract pattern _ _ hextract =>
    rw [Pattern.names_of_extract hextract]
    exact pattern.nodup_names
  | read _ hdistinct => exact hdistinct

/-- Inserting the entries of a mapping one after the other gives the mapping. -/
theorem ofList_entries {params : Params} (hnodup : params.names.Nodup) : ofList params.entries = params :=
  ofList_of_nodup hnodup

end Params

/-- A draft passes on what was inserted into it. -/
theorem PathDraft.build_withParams (pattern : Pattern) (params : Params) :
    (pattern.draft.withParams params).build = pattern.build (some (.ofList params.entries)) none := by
  rw [build_eq]
  rfl

namespace Pattern

/-- The pattern of the root, which declares nothing. -/
def rootPattern : Pattern where
  serial := 0
  template := "/"
  layout := ⟨[], false⟩
  ignoreCase := false
  layout_eq := by decide
  nodup_names := by decide
  empty_notMem_names := by decide

/-- All names are unknown to the root, in the order in which they stand in the parameters. -/
theorem build_rootPattern {params : Params} (hne : params.names ≠ []) :
    rootPattern.build (some params) none = .error (.unknownParams "/" params.names) := by
  have hmissing : rootPattern.missing params = [] := rfl
  have hunknown : rootPattern.unknown params = params.names := List.filter_eq_self.2 fun name _ => rfl
  rw [build_none_eq, buildPathname, hmissing, hunknown, if_pos hne]
  rfl

end Pattern

namespace Params

/-- Supplying parameters to a draft is as good as passing them, whatever the pattern, exactly if no name stands twice:
where one does, the root already tells its unknown names differently. -/
theorem draft_agrees_iff {params : Params} :
    (∀ pattern : Pattern, (pattern.draft.withParams params).build = pattern.build (some params) none) ↔
      params.names.Nodup := by
  constructor
  · intro hagrees
    by_cases hnil : params.names = []
    · rw [hnil]
      exact List.nodup_nil
    · have hroot := hagrees Pattern.rootPattern
      have hinserted : (ofList params.entries).names ≠ [] := by
        intro hinserted
        rw [PathDraft.build_withParams, eq_empty_of_isEmpty (List.isEmpty_iff.2 (List.map_eq_nil_iff.1 hinserted)),
          Pattern.build_rootPattern hnil] at hroot
        cases hroot
      rw [PathDraft.build_withParams, Pattern.build_rootPattern hinserted, Pattern.build_rootPattern hnil] at hroot
      injection hroot with hroot
      injection hroot with _ hnames
      exact hnames ▸ nodup_names_ofList params.entries
  · intro hnodup pattern
    rw [PathDraft.build_withParams, ofList_entries hnodup]

/-- Parameters that were made by insertion, matched by a pattern or read from a text that repeats no name are a mapping:
no name stands twice, a name has the value that stands next to it and is contained if there is one, there are as many
entries as names, and building from them comes to the same whether they are passed as they are or supplied to a draft.
The last of these alone tells mappings from all other parameters. -/
theorem obtained_isMapping {params : Params} (h : params.Obtained) :
    params.names.Nodup ∧
    (∀ name value, params.get? name = some value ↔ (name, value) ∈ params.entries) ∧
    (∀ name, params.contains name = true ↔ ∃ value, (name, value) ∈ params.entries) ∧
    params.size = params.names.toFinset.card ∧
    (∀ pattern : Pattern, (pattern.draft.withParams params).build = pattern.build (some params) none) ∧
    ∀ others : Params,
      (∀ pattern : Pattern, (pattern.draft.withParams others).build = pattern.build (some others) none) ↔
        others.names.Nodup := by
  have hnodup := h.nodup
  refine ⟨hnodup, fun _ _ => get?_eq_some_iff hnodup, fun name => ?_, size_eq_card hnodup,
    draft_agrees_iff.2 hnodup, fun _ => draft_agrees_iff⟩
  rw [contains_eq_true_iff, names, List.mem_map]
  simp

/-- A name that is read, and inserted again, keeps its place. -/
theorem obtained_isMapping_reread :
    ((JsonValue.parse? "\x7b\"entries\":[[\"b\",\"1\"],[\"a\",\"2\"]]\x7d").bind ofJson?).map (·.insert "b" "3") =
      some ⟨[("b", "3"), ("a", "2")]⟩ ∧
    (⟨[("b", "3"), ("a", "2")]⟩ : Params).size = 2 ∧
    ∀ pattern : Pattern, (pattern.draft.withParams ⟨[("b", "3"), ("a", "2")]⟩).build =
      pattern.build (some ⟨[("b", "3"), ("a", "2")]⟩) none := by
  have hread : (JsonValue.parse? "\x7b\"entries\":[[\"b\",\"1\"],[\"a\",\"2\"]]\x7d").bind ofJson? =
      some ⟨[("b", "1"), ("a", "2")]⟩ := by decide +kernel
  have hobtained : Obtained ⟨[("b", "3"), ("a", "2")]⟩ := .insert (.read hread (by decide)) "b" "3"
  obtain ⟨-, -, -, hsize, hbuild, -⟩ := obtained_isMapping hobtained
  exact ⟨by rw [hread]; rfl, hsize, hbuild⟩

/-- A text may repeat a name, and both entries are taken as they are: there are two of them with one name, of which
passing the parameters uses the first and supplying them to a draft the last. -/
theorem read_repeats_name :
    (JsonValue.parse? "\x7b\"entries\":[[\"a\",\"1\"],[\"a\",\"2\"]]\x7d").bind ofJson? =
      some ⟨[("a", "1"), ("a", "2")]⟩ ∧
    ¬(⟨[("a", "1"), ("a", "2")]⟩ : Params).names.Nodup ∧
    (⟨[("a", "1"), ("a", "2")]⟩ : Params).size = 2 ∧
    Pattern.slidePattern.build (some ⟨[("a", "1"), ("a", "2")]⟩) none = .ok "/1" ∧
    (Pattern.slidePattern.draft.withParams ⟨[("a", "1"), ("a", "2")]⟩).build = .ok "/2" := by
  refine ⟨by decide +kernel, by decide, rfl, by decide +kernel, by decide +kernel⟩

end Params

end PageRouter
