import Mathlib.Data.List.Forall2

namespace PageRouter

/-- A list is read if all its elements are. -/
theorem mapM_eq_some_iff {α β : Type} {read : α → Option β} {list : List α} {results : List β} :
    list.mapM read = some results ↔ List.Forall₂ (fun a b => read a = some b) list results := by
  induction list generalizing results with
  | nil => simp [eq_comm]
  | cons a list ih =>
    rw [List.mapM_cons, List.forall₂_cons_left_iff]
    simp only [Option.bind_eq_bind, Option.bind_eq_some_iff, Option.pure_def, Option.some.injEq, ih]
    exact ⟨fun ⟨b, hb, more, hmore, heq⟩ => ⟨b, more, hb, hmore, heq.symm⟩,
      fun ⟨b, more, hb, hmore, heq⟩ => ⟨b, hb, more, hmore, heq.symm⟩⟩

/-- What a list is read as depends on its own elements only. -/
theorem mapM_congr_of_mem {α β : Type} {read other : α → Option β} {list : List α}
    (hsame : ∀ a ∈ list, read a = other a) : list.mapM read = list.mapM other := by
  induction list with
  | nil => rfl
  | cons a list ih =>
    obtain ⟨ha, hmore⟩ := List.forall_mem_cons.1 hsame
    rw [List.mapM_cons, List.mapM_cons, ha, ih hmore]

/-- What stands on the right of related lists is related to something on the left. -/
theorem exists_of_forall₂ {α β : Type} {related : α → β → Prop} {list : List α} {results : List β}
    (hpairs : List.Forall₂ related list results) {b : β} (hb : b ∈ results) : ∃ a ∈ list, related a b := by
  induction hpairs with
  | nil => cases hb
  | @cons a _ list _ ha _ ih =>
    rcases List.mem_cons.1 hb with rfl | hb
    · exact ⟨a, List.mem_cons_self, ha⟩
    · obtain ⟨a, hmem, ha⟩ := ih hb
      exact ⟨a, List.mem_cons_of_mem _ hmem, ha⟩

/-- Every result is read from an element. -/
theorem exists_of_mem_mapM {α β : Type} {read : α → Option β} {list : List α} {results : List β}
    (hread : list.mapM read = some results) {b : β} (hb : b ∈ results) : ∃ a ∈ list, read a = some b :=
  exists_of_forall₂ (mapM_eq_some_iff.1 hread) hb

/-- Every element of a list that is read is read. -/
theorem isSome_of_mapM {α β : Type} {read : α → Option β} {list : List α} {results : List β}
    (hread : list.mapM read = some results) {a : α} (ha : a ∈ list) : ∃ b, read a = some b := by
  obtain ⟨b, -, hb⟩ := exists_of_forall₂ (List.Forall₂.flip (mapM_eq_some_iff.1 hread)) ha
  exact ⟨b, hb⟩

/-- A list of what is written for results is read as these. -/
theorem mapM_eq_some_map {α β : Type} {read : α → Option β} {write : β → α} {results : List β}
    (hread : ∀ b ∈ results, read (write b) = some b) : (results.map write).mapM read = some results :=
  mapM_eq_some_iff.2 (List.forall₂_map_left_iff.2 (List.forall₂_same.2 hread))

end PageRouter
