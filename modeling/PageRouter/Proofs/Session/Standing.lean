import Mathlib.Order.BooleanAlgebra.Set
import PageRouter.Proofs.Session.Follow
import PageRouter.Proofs.Session.Registry

namespace PageRouter

variable {κ σ ε : Type}

/-- A guard with blockers has its one unload handler, a guard without any has none. -/
structure Standing.Settled (standing : Standing) : Prop where
  attached : standing.attached = true ↔ 0 < standing.blockers
  attaching : standing.attaching = false
  handlers : standing.handlers = if 0 < standing.blockers then 1 else 0

/-- What is going on at a guard: whether its handler is being registered, how many additions and removals are under
way, and which of its handlers are on their way in or out. -/
@[ext]
structure Business where
  attaching : Bool
  changing : Nat
  strays : Set Nat

/-- Nothing is left undone while no blocker is being added or removed. -/
def Business.Idle (business : Business) : Prop :=
  business.changing = 0 → business.attaching = false ∧ business.strays = ∅

/-- Whatever programs saw of a guard while none of its blockers was being added or removed was settled. -/
def Truthful (guard : GuardId) (events : List (Event ε)) : Prop :=
  ∀ standings, .looked standings ∈ events → ∀ standing, standings[guard]? = some standing →
    standing.changing = 0 → standing.Settled

/-- What was seen in a run that goes on is what was seen in both of its parts. -/
theorem Truthful.append {guard : GuardId} {later earlier : List (Event ε)} (hlater : Truthful guard later)
    (hearlier : Truthful guard earlier) : Truthful guard (later ++ earlier) := by
  intro standings hlooked
  rcases List.mem_append.1 hlooked with hmem | hmem
  · exact hlater standings hmem
  · exact hearlier standings hmem

/-- Where nobody looked, nothing was seen. -/
theorem truthful_of_keepsGuards (guard : GuardId) {events : List (Event ε)}
    (hkeeps : ∀ event ∈ events, event.KeepsGuards) : Truthful guard events :=
  fun standings hlooked => (hkeeps (.looked standings) hlooked).elim

theorem truthful_nil (guard : GuardId) : Truthful guard ([] : List (Event ε)) :=
  truthful_of_keepsGuards guard (List.forall_mem_nil _)

namespace World

/-- An id under which an unload handler of a guard is registered. -/
def IsHandler (world : World κ σ ε) (guard : GuardId) (id : Nat) : Prop :=
  (id, .guard guard) ∈ world.unload.entries

/-- An unload handler of a guard that its own registration does not name. -/
def Stray (world : World κ σ ε) (guard : GuardId) (id : Nat) : Prop :=
  world.IsHandler guard id ∧ (world.guardAt guard).unload ≠ some id

/-- An id of unload handlers that belongs to a guard, or to nobody any longer. -/
def Owns (world : World κ σ ε) (guard : GuardId) (id : Nat) : Prop :=
  id < world.unload.nextId ∧ ∀ handler, (id, handler) ∈ world.unload.entries → handler = .guard guard

/-- What is true of unload handlers whatever happens: ids are in order, and neither the host nor another guard
has one in its hands that belongs to a guard. -/
structure Listed (world : World κ σ ε) : Prop where
  ordered : world.unload.Ordered
  handles : ∀ id, ⟨.unload, id⟩ ∈ world.handles →
    id < world.unload.nextId ∧ ∀ guard, ¬world.IsHandler guard id
  owned : ∀ guard id, (world.guardAt guard).unload = some id → world.Owns guard id

/-- A guard has its unload handler exactly if it has blockers, unless the handler is just being registered. Its unload
handlers are those that its own registration names and strays, which are on their way in or out; while no blocker is
being added or removed, there are no strays. -/
structure Attended (world : World κ σ ε) (guard : GuardId) : Prop where
  registered : ∀ id, (world.guardAt guard).unload = some id → world.IsHandler guard id
  attaching : (world.guardAt guard).attaching = true → (world.guardAt guard).unload = none
  attached : (world.guardAt guard).attaching = false →
    ((world.guardAt guard).unload = none ↔ (world.guardAt guard).blockers.entries = [])

/-- What the additions and removals of blockers that are under way at a guard have to do with its handlers. -/
def business (world : World κ σ ε) (guard : GuardId) : Business where
  attaching := (world.guardAt guard).attaching
  changing := (world.guardAt guard).changing
  strays := {id | world.Stray guard id}

variable {world after : World κ σ ε} {guard : GuardId}

/-- The business of a guard is the same if its handlers and its own state are. -/
theorem business_of_same (hguard : after.guardAt guard = world.guardAt guard)
    (hhandlers : ∀ id, after.IsHandler guard id ↔ world.IsHandler guard id) :
    after.business guard = world.business guard := by
  simp only [business, Stray, hguard, hhandlers]

/-- A guard is attended to as long as its handlers and its own state are as they were. -/
theorem Attended.of_same (h : world.Attended guard) (hguard : after.guardAt guard = world.guardAt guard)
    (hhandlers : ∀ id, after.IsHandler guard id ↔ world.IsHandler guard id) : after.Attended guard where
  registered id hid := (hhandlers id).2 (h.registered id (hguard ▸ hid))
  attaching := hguard ▸ h.attaching
  attached := hguard ▸ h.attached

/-- A guard is attended to, with certain business left. -/
def Attends (world : World κ σ ε) (guard : GuardId) (business : Business) : Prop :=
  world.Attended guard ∧ world.business guard = business

/-- The handlers of guards are seen from the list of all handlers alone. -/
theorem isHandler_of_unload_eq (hunload : after.unload = world.unload) (guard : GuardId) (id : Nat) :
    after.IsHandler guard id ↔ world.IsHandler guard id := by
  rw [IsHandler, hunload]
  rfl

/-- An id that belongs to a guard does so ever after. -/
theorem Owns.later {id : Nat} (h : world.Owns guard id) (hlater : world.unload.Later after.unload) :
    after.Owns guard id :=
  ⟨Nat.lt_of_lt_of_le h.1 hlater.nextId_le, fun handler hmem => h.2 handler (hlater.mem _ hmem h.1)⟩

/-- A handler of a guard has an id that was handed out. -/
theorem IsHandler.lt_nextId {id : Nat} (hlisted : world.Listed) (h : world.IsHandler guard id) :
    id < world.unload.nextId :=
  hlisted.ordered.lt_nextId id (Registry.mem_ids_of_mem h)

/-- Handlers stay listed if no other ones come in the hands of the host or of a guard than those that belong
there. -/
theorem Listed.later (h : world.Listed) (hordered : after.unload.Ordered)
    (hlater : world.unload.Later after.unload)
    (hhandles : ∀ id, ⟨.unload, id⟩ ∈ after.handles → ⟨.unload, id⟩ ∈ world.handles ∨
      id < after.unload.nextId ∧ ∀ guard, ¬after.IsHandler guard id)
    (howned : ∀ guard id, (after.guardAt guard).unload = some id →
      (world.guardAt guard).unload = some id ∨ after.Owns guard id) : after.Listed where
  ordered := hordered
  handles id hid := by
    rcases hhandles id hid with hold | hnew
    · obtain ⟨hlt, hother⟩ := h.handles id hold
      refine ⟨Nat.lt_of_lt_of_le hlt hlater.nextId_le, fun guard hmem => ?_⟩
      exact hother guard (hlater.mem _ hmem hlt)
    · exact hnew
  owned guard id hid := by
    rcases howned guard id hid with hold | hnew
    · exact (h.owned guard id hold).later hlater
    · exact hnew

/-- What does not concern the blockers of guards leaves their handlers alone. -/
theorem Listed.keepsGuards (h : world.Listed) (hkeeps : KeepsGuards world after) :
    after.Listed ∧ world.unload.Later after.unload ∧
      ∀ guard id, after.IsHandler guard id ↔ world.IsHandler guard id := by
  have howned (guard : GuardId) (id : Nat) (hid : (after.guardAt guard).unload = some id) :
      (world.guardAt guard).unload = some id ∨ after.Owns guard id :=
    .inl (hkeeps.guardAt guard ▸ hid)
  cases hkeeps.unload with
  | same hunload hhandles =>
    refine ⟨h.later (hunload ▸ h.ordered) (hunload ▸ .refl _) (fun id hid => .inl (hhandles id hid)) howned, ?_⟩
    exact ⟨hunload ▸ .refl _, isHandler_of_unload_eq hunload⟩
  | listen callback hunload hhandles =>
    have hsame (guard : GuardId) (id : Nat) : after.IsHandler guard id ↔ world.IsHandler guard id := by
      rw [IsHandler, hunload, Registry.mem_subscribe]
      exact or_iff_left (by simp)
    have hlater : world.unload.Later after.unload := hunload ▸ .subscribe world.unload _
    refine ⟨h.later (hunload ▸ h.ordered.subscribe _) hlater (fun id hid => ?_) howned, hlater, hsame⟩
    rw [hhandles] at hid
    rcases List.mem_cons.1 hid with heq | hold
    · cases heq
      refine .inr ⟨by rw [hunload]; exact Nat.lt_succ_self _, fun guard hmem => ?_⟩
      exact Nat.lt_irrefl _ (((hsame guard _).1 hmem).lt_nextId h)
    · exact .inl hold
  | unlisten id hhandle hunload hhandles =>
    have hsame (guard : GuardId) (other : Nat) : after.IsHandler guard other ↔ world.IsHandler guard other := by
      rw [IsHandler, hunload, Registry.mem_unsubscribe]
      refine and_iff_left_of_imp fun hmem heq => (h.handles id hhandle).2 guard ?_
      rwa [show other = id from heq] at hmem
    have hlater : world.unload.Later after.unload := hunload ▸ .unsubscribe world.unload id
    refine ⟨h.later (hunload ▸ h.ordered.unsubscribe id) hlater (fun other hid => ?_) howned, hlater, hsame⟩
    rw [hhandles] at hid
    exact .inl (List.mem_of_mem_erase hid)

private theorem mem_unloadHandlers {id : Nat} : id ∈ world.unloadHandlers guard ↔ world.IsHandler guard id := by
  rw [unloadHandlers, IsHandler, List.mem_filterMap]
  constructor
  · rintro ⟨⟨id', handler⟩, hmem, hid⟩
    cases handler with
    | host callback => cases hid
    | guard other =>
      obtain ⟨rfl, rfl⟩ : other = guard ∧ id' = id := by simpa using hid
      exact hmem
  · exact fun hmem => ⟨_, hmem, if_pos rfl⟩

private theorem Listed.nodup_unloadHandlers (h : world.Listed) (guard : GuardId) :
    (world.unloadHandlers guard).Nodup := by
  have hnodup : world.unload.ids.Nodup := h.ordered.sorted.imp Nat.ne_of_lt
  rw [Registry.ids, ← List.filterMap_eq_map] at hnodup
  refine hnodup.sublist ?_
  rw [unloadHandlers]
  generalize world.unload.entries = entries
  induction entries with
  | nil => exact .slnil
  | cons entry entries ih =>
    obtain ⟨id, _ | other⟩ := entry
    · exact .cons _ ih
    · by_cases hother : other = guard
      · simpa [hother] using ih
      · simpa [hother] using ih.cons id

/-- A guard that is there is seen as it is, but for who holds it. -/
theorem guardAt_of_some {g : Guard κ} (hguard : world.guards[guard]? = some g) : world.guardAt guard = g.unheld := by
  rw [guardAt, hguard, Option.getD_some]

/-- When a guard that is there is attended to, in terms of its state. -/
theorem attended_iff {g : Guard κ} (hguard : world.guards[guard]? = some g) :
    world.Attended guard ↔ (∀ id, g.unload = some id → world.IsHandler guard id) ∧
      (g.attaching = true → g.unload = none) ∧
      (g.attaching = false → (g.unload = none ↔ g.blockers.entries = [])) := by
  have hguardAt := guardAt_of_some hguard
  refine ⟨fun h => ?_, fun ⟨hregistered, hattaching, hattached⟩ => ⟨?_, ?_, ?_⟩⟩
  · obtain ⟨hregistered, hattaching, hattached⟩ := h
    rw [hguardAt] at hregistered hattaching hattached
    exact ⟨hregistered, hattaching, hattached⟩
  all_goals rw [hguardAt]
  · exact hregistered
  · exact hattaching
  · exact hattached

/-- The business of a guard that is there, in terms of its state. -/
theorem business_eq {g : Guard κ} (hguard : world.guards[guard]? = some g) :
    world.business guard = ⟨g.attaching, g.changing, {id | world.IsHandler guard id ∧ g.unload ≠ some id}⟩ := by
  simp only [business, Stray, guardAt_of_some hguard]
  rfl

/-- How a guard stands is what it says of itself and how many handlers it has. -/
theorem getElem?_standings (world : World κ σ ε) (guard : GuardId) :
    world.standings[guard]? = world.guards[guard]?.map fun g => {
      blockers := g.blockers.size, attached := g.unload.isSome, attaching := g.attaching
      handlers := (world.unloadHandlers guard).length, changing := g.changing } :=
  List.getElem?_mapIdx

/-- A guard stands settled while no blocker is being added or removed. -/
theorem settled_of_idle (hlisted : world.Listed) (hattended : world.Attended guard)
    (hidle : (world.business guard).Idle) {standing : Standing} (hstanding : world.standings[guard]? = some standing)
    (hchanging : standing.changing = 0) : standing.Settled := by
  rw [getElem?_standings, Option.map_eq_some_iff] at hstanding
  obtain ⟨g, hguard, rfl⟩ := hstanding
  obtain ⟨hregistered, -, hattached⟩ := (attended_iff hguard).1 hattended
  rw [business_eq hguard] at hidle
  obtain ⟨hattaching, hstrays⟩ := hidle hchanging
  have hblockers : g.unload = none ↔ g.blockers.entries = [] := hattached hattaching
  have hnamed {id : Nat} (hid : id ∈ world.unloadHandlers guard) : g.unload = some id := by
    by_contra hne
    exact Set.eq_empty_iff_forall_notMem.1 hstrays id ⟨mem_unloadHandlers.1 hid, hne⟩
  have hnodup := hlisted.nodup_unloadHandlers guard
  rcases hunload : g.unload with _ | id
  · -- There is no handler at all, since it would be a stray.
    have hnone : world.unloadHandlers guard = [] := List.eq_nil_iff_forall_not_mem.2 fun id hid => by
      cases hunload.symm.trans (hnamed hid)
    have hempty : g.blockers.size = 0 := by rw [Registry.size, hblockers.1 hunload, List.length_nil]
    refine ⟨?_, hattaching, ?_⟩
    · simp [hempty]
    · simp [hnone, hempty]
  · have hpos : 0 < g.blockers.size := by
      refine List.length_pos_of_ne_nil fun hempty => ?_
      cases hunload.symm.trans (hblockers.2 hempty)
    have hmem : id ∈ world.unloadHandlers guard := mem_unloadHandlers.2 (hregistered id hunload)
    have hall : ∀ other ∈ world.unloadHandlers guard, other = id := fun other hother =>
      Option.some.inj ((hnamed hother).symm.trans hunload)
    have hone : (world.unloadHandlers guard).length = 1 := by
      have hreplicate := List.eq_replicate_of_mem hall
      rw [hreplicate, List.nodup_replicate] at hnodup
      have hlength := List.length_pos_of_mem hmem
      omega
    refine ⟨?_, hattaching, ?_⟩
    · simp [hpos]
    · simp [hone, hpos]

end World

end PageRouter
