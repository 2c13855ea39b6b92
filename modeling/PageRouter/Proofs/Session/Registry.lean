import Mathlib.Algebra.BigOperators.Group.List.Basic
import Mathlib.Data.List.Nodup
import PageRouter.Proofs.Session.Minor

namespace PageRouter

variable {α : Type}

namespace Registry

/-- The ids of the registrations, in order. -/
def ids (registry : Registry α) : List Nat :=
  registry.entries.map (·.1)

/-- The ids of a registry grow, and the next one is beyond all of them. -/
structure Ordered (registry : Registry α) : Prop where
  sorted : registry.ids.Pairwise (· < ·)
  lt_nextId : ∀ id ∈ registry.ids, id < registry.nextId

/-- A registry at a later time: what is registered under an id of before was registered before. -/
structure Later (registry after : Registry α) : Prop where
  nextId_le : registry.nextId ≤ after.nextId
  mem : ∀ entry ∈ after.entries, entry.1 < registry.nextId → entry ∈ registry.entries

variable {registry : Registry α}

theorem mem_ids_of_mem {id : Nat} {callback : α} (hmem : (id, callback) ∈ registry.entries) :
    id ∈ registry.ids :=
  List.mem_map_of_mem hmem

@[simp] theorem nextId_subscribe (callback : α) :
    (registry.subscribe callback).nextId = registry.nextId + 1 := rfl

/-- A callback that is registered comes to the ones that are, under the next id. -/
theorem mem_subscribe {callback : α} {entry : Nat × α} :
    entry ∈ (registry.subscribe callback).entries ↔
      entry ∈ registry.entries ∨ entry = (registry.nextId, callback) := by
  simp [subscribe]

/-- What is left are the registrations under other ids. -/
theorem mem_unsubscribe {id : Nat} {entry : Nat × α} :
    entry ∈ (registry.unsubscribe id).entries ↔ entry ∈ registry.entries ∧ entry.1 ≠ id := by
  simp [unsubscribe]

/-- The next id is put behind all others. -/
theorem ids_subscribe (callback : α) :
    (registry.subscribe callback).ids = registry.ids ++ [registry.nextId] := by
  simp [ids, subscribe]

private theorem ids_unsubscribe_sublist (id : Nat) : (registry.unsubscribe id).ids.Sublist registry.ids :=
  List.filter_sublist.map _

/-- A registry in which nothing is registered is in order. -/
theorem ordered_empty : ({} : Registry α).Ordered :=
  ⟨.nil, by simp [ids]⟩

/-- The next id is greater than those before it, so that a registry stays in order. -/
theorem Ordered.subscribe (h : registry.Ordered) (callback : α) : (registry.subscribe callback).Ordered := by
  constructor
  · rw [ids_subscribe, List.pairwise_append]
    exact ⟨h.sorted, List.pairwise_singleton _ _, by simpa using h.lt_nextId⟩
  · intro id hid
    rw [ids_subscribe, List.mem_append, List.mem_singleton] at hid
    rw [nextId_subscribe]
    rcases hid with hid | rfl
    · have := h.lt_nextId id hid
      omega
    · omega

/-- What is left of a registry in order is in order. -/
theorem Ordered.unsubscribe (h : registry.Ordered) (id : Nat) : (registry.unsubscribe id).Ordered where
  sorted := h.sorted.sublist (ids_unsubscribe_sublist id)
  lt_nextId other hother := h.lt_nextId other ((ids_unsubscribe_sublist id).subset hother)

/-- A registry in order is so after any change. -/
theorem Ordered.changed (h : registry.Ordered) {after : Registry α} (hchanged : registry.Changed after) :
    after.Ordered := by
  cases hchanged with
  | subscribe callback => exact h.subscribe callback
  | unsubscribe id => exact h.unsubscribe id

/-- Nothing is registered twice under one id. -/
theorem Ordered.eq_of_mem (h : registry.Ordered) {id : Nat} {a b : α} (ha : (id, a) ∈ registry.entries)
    (hb : (id, b) ∈ registry.entries) : a = b := by
  have hnodup : (registry.entries.map (·.1)).Nodup := h.sorted.imp Nat.ne_of_lt
  exact congrArg Prod.snd (List.inj_on_of_nodup_map hnodup ha hb rfl)

/-- A sum over the registrations in which only one of them counts. -/
theorem Ordered.sum_eq {M : Type} [AddMonoid M] (h : registry.Ordered) {id : Nat} {callback : α}
    (hmem : (id, callback) ∈ registry.entries) {amount : Nat × α → M}
    (hothers : ∀ entry ∈ registry.entries, entry.1 ≠ id → amount entry = 0) :
    (registry.entries.map amount).sum = amount (id, callback) := by
  have hnodup : (registry.entries.map (·.1)).Nodup := h.sorted.imp Nat.ne_of_lt
  obtain ⟨before, after, heq⟩ := List.append_of_mem hmem
  rw [heq, List.map_append, List.map_cons, List.nodup_append] at hnodup
  obtain ⟨-, hafter, hapart⟩ := hnodup
  rw [heq] at hothers
  have hzero (others : List (Nat × α)) (hsum : ∀ entry ∈ others, amount entry = 0) :
      (others.map amount).sum = 0 := by
    refine List.sum_eq_zero fun value hvalue => ?_
    obtain ⟨entry, hentry, rfl⟩ := List.mem_map.1 hvalue
    exact hsum entry hentry
  have hbefore : (before.map amount).sum = 0 := by
    refine hzero before fun entry hentry => hothers entry (List.mem_append_left _ hentry) ?_
    exact hapart _ (List.mem_map_of_mem hentry) id List.mem_cons_self
  have hrest : (after.map amount).sum = 0 := by
    refine hzero after fun entry hentry => ?_
    refine hothers entry (List.mem_append_right _ (List.mem_cons_of_mem _ hentry)) fun hsame => ?_
    exact (List.nodup_cons.1 hafter).1 (List.mem_map.2 ⟨entry, hentry, hsame⟩)
  rw [heq, List.map_append, List.map_cons, List.sum_append, List.sum_cons, hbefore, hrest, zero_add, add_zero]

theorem Later.refl (registry : Registry α) : registry.Later registry :=
  ⟨Nat.le_refl _, fun _ hmem _ => hmem⟩

/-- What is registered under an id of before has been registered all along. -/
theorem Later.trans {second third : Registry α} (hfirst : registry.Later second)
    (hsecond : second.Later third) : registry.Later third where
  nextId_le := Nat.le_trans hfirst.nextId_le hsecond.nextId_le
  mem entry hmem hlt :=
    hfirst.mem entry (hsecond.mem entry hmem (Nat.lt_of_lt_of_le hlt hfirst.nextId_le)) hlt

/-- An id of before that is used later was used all along. -/
theorem Later.mem_ids {after : Registry α} (h : registry.Later after) {id : Nat} (hid : id ∈ after.ids)
    (hlt : id < registry.nextId) : id ∈ registry.ids := by
  obtain ⟨entry, hmem, rfl⟩ := List.mem_map.1 hid
  exact List.mem_map_of_mem (h.mem entry hmem hlt)

/-- A new registration has an id of its own. -/
theorem Later.subscribe (registry : Registry α) (callback : α) :
    registry.Later (registry.subscribe callback) := by
  refine ⟨Nat.le_succ _, fun entry hmem hlt => ?_⟩
  rcases mem_subscribe.1 hmem with hbefore | rfl
  · exact hbefore
  · exact absurd hlt (Nat.lt_irrefl _)

/-- Removing a registration makes no other one. -/
theorem Later.unsubscribe (registry : Registry α) (id : Nat) : registry.Later (registry.unsubscribe id) :=
  ⟨Nat.le_refl _, fun _ hmem _ => (mem_unsubscribe.1 hmem).1⟩

/-- Every change of a registry leads to a later one. -/
theorem Later.changed {after : Registry α} (hchanged : registry.Changed after) : registry.Later after := by
  cases hchanged with
  | subscribe callback => exact .subscribe registry callback
  | unsubscribe id => exact .unsubscribe registry id

end Registry

end PageRouter
