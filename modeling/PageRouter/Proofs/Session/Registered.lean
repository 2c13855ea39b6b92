import PageRouter.Proofs.Session.Notified
import PageRouter.Proofs.Session.Throughout

namespace PageRouter

variable {κ σ ε α : Type}

namespace Registry

/-- The callback that a call registers. -/
def Call.callback? : Call α → Option α
  | .subscribe callback => some callback
  | _ => none

/-- The registration that a call takes back. -/
def Call.returned? : Call α → Option Nat
  | .unsubscribe id => some id
  | _ => none

/-- The callbacks that calls register, in order. -/
def subscribed (calls : List (Call α)) : List α :=
  calls.filterMap Call.callback?

/-- The registrations that calls take back. -/
def returned (calls : List (Call α)) : List Nat :=
  calls.filterMap Call.returned?

/-- The callbacks that calls register and do not take back, in order, each with the number of its registration. -/
def live (calls : List (Call α)) : List (Nat × α) :=
  ((subscribed calls).mapIdx Prod.mk).filter (·.1 ∉ returned calls)

section Calls

variable {calls : List (Call α)}

@[simp] theorem subscribed_subscribe (callback : α) :
    subscribed (calls ++ [.subscribe callback]) = subscribed calls ++ [callback] :=
  List.filterMap_append

@[simp] theorem subscribed_unsubscribe (id : Nat) : subscribed (calls ++ [.unsubscribe id]) = subscribed calls :=
  List.filterMap_append.trans (List.append_nil _)

@[simp] theorem subscribed_drop (id : Nat) : subscribed (calls ++ [.drop id]) = subscribed calls :=
  List.filterMap_append.trans (List.append_nil _)

@[simp] theorem returned_subscribe (callback : α) : returned (calls ++ [.subscribe callback]) = returned calls :=
  List.filterMap_append.trans (List.append_nil _)

@[simp] theorem returned_unsubscribe (id : Nat) : returned (calls ++ [.unsubscribe id]) = returned calls ++ [id] :=
  List.filterMap_append

@[simp] theorem returned_drop (id : Nat) : returned (calls ++ [.drop id]) = returned calls :=
  List.filterMap_append.trans (List.append_nil _)

/-- A callback is live if its call registered it and none took it back. -/
theorem mem_live {id : Nat} {callback : α} :
    (id, callback) ∈ live calls ↔ (subscribed calls)[id]? = some callback ∧ id ∉ returned calls := by
  rw [live, List.mem_filter, List.mem_mapIdx, decide_eq_true_eq, List.getElem?_eq_some_iff]
  refine and_congr_left fun _ => ⟨?_, ?_⟩
  · rintro ⟨index, hindex, heq⟩
    cases heq
    exact ⟨hindex, rfl⟩
  · rintro ⟨hindex, rfl⟩
    exact ⟨id, hindex, rfl⟩

/-- A callback that is registered comes behind the ones that are live. -/
theorem live_subscribe (callback : α) (hfresh : (subscribed calls).length ∉ returned calls) :
    live (calls ++ [.subscribe callback]) = live calls ++ [((subscribed calls).length, callback)] := by
  simp only [live, subscribed_subscribe, returned_subscribe, List.mapIdx_concat, List.filter_append]
  exact congrArg _ (List.filter_cons_of_pos (decide_eq_true hfresh))

/-- Taking a registration back leaves the other callbacks, in their order. -/
theorem live_unsubscribe (id : Nat) :
    live (calls ++ [.unsubscribe id]) = (live calls).filter (·.1 ≠ id) := by
  simp only [live, subscribed_unsubscribe, returned_unsubscribe, List.filter_filter]
  refine List.filter_congr fun entry _ => ?_
  rw [← Bool.decide_and, decide_eq_decide, List.mem_append, List.mem_singleton, not_or, and_comm]

/-- Letting go of a registration leaves its callback where it is. -/
theorem live_drop (id : Nat) : live (calls ++ [.drop id]) = live calls := by
  simp only [live, subscribed_drop, returned_drop]

end Calls

end Registry

namespace Holding

open Registry

/-- What is true of a registry after calls: it holds what is live of them, and a registration in hand was made by one of
them and taken back by none. -/
structure Accounts (calls : List (Call α)) (holding : Holding α) : Prop where
  ordered : holding.registry.Ordered
  nextId_eq : holding.registry.nextId = (subscribed calls).length
  entries_eq : holding.registry.entries = live calls
  nodup : holding.handles.Nodup
  lt_nextId : ∀ id ∈ holding.handles, id < holding.registry.nextId
  kept : ∀ id ∈ holding.handles, id ∉ returned calls
  returned_lt : ∀ id ∈ returned calls, id < holding.registry.nextId

private theorem accounts_empty : ({} : Holding α).Accounts [] where
  ordered := ordered_empty
  nextId_eq := rfl
  entries_eq := rfl
  nodup := List.nodup_nil
  lt_nextId := nofun
  kept := nofun
  returned_lt := nofun

namespace Accounts

variable {calls : List (Call α)} {holding after : Holding α}

/-- The next id is the number of calls that registered something. -/
theorem subscribe (h : holding.Accounts calls) (callback : α) :
    Accounts (calls ++ [.subscribe callback])
      ⟨holding.registry.subscribe callback, holding.registry.nextId :: holding.handles⟩ := by
  have hfresh : holding.registry.nextId ∉ returned calls := fun hid =>
    Nat.lt_irrefl _ (h.returned_lt _ hid)
  constructor
  · exact h.ordered.subscribe callback
  · rw [nextId_subscribe, h.nextId_eq, subscribed_subscribe, List.length_append, List.length_singleton]
  · rw [live_subscribe callback (h.nextId_eq ▸ hfresh), ← h.entries_eq, ← h.nextId_eq]
    rfl
  · exact List.nodup_cons.2 ⟨fun hid => Nat.lt_irrefl _ (h.lt_nextId _ hid), h.nodup⟩
  · exact List.forall_mem_cons.2 ⟨Nat.lt_succ_self _, fun id hid => Nat.lt_succ_of_lt (h.lt_nextId id hid)⟩
  · rw [returned_subscribe]
    exact List.forall_mem_cons.2 ⟨hfresh, h.kept⟩
  · rw [returned_subscribe]
    exact fun id hid => Nat.lt_succ_of_lt (h.returned_lt id hid)

/-- What is taken back is out of hand from then on, so that it is taken back once. -/
theorem unsubscribe (h : holding.Accounts calls) {id : Nat} (hid : id ∈ holding.handles) :
    Accounts (calls ++ [.unsubscribe id]) ⟨holding.registry.unsubscribe id, holding.handles.erase id⟩ := by
  constructor
  · exact h.ordered.unsubscribe id
  · rw [subscribed_unsubscribe]
    exact h.nextId_eq
  · rw [live_unsubscribe, ← h.entries_eq]
    rfl
  · exact h.nodup.erase id
  · exact fun other hother => h.lt_nextId other (List.mem_of_mem_erase hother)
  · intro other hother
    rw [returned_unsubscribe, List.mem_append, List.mem_singleton, not_or]
    obtain ⟨hne, hother⟩ := h.nodup.mem_erase_iff.1 hother
    exact ⟨h.kept other hother, hne⟩
  · rw [returned_unsubscribe, List.forall_mem_append, List.forall_mem_singleton]
    exact ⟨h.returned_lt, h.lt_nextId id hid⟩

/-- A registration that is let go of is out of hand, but is not taken back. -/
theorem drop (h : holding.Accounts calls) (id : Nat) :
    Accounts (calls ++ [.drop id]) { holding with handles := holding.handles.erase id } := by
  constructor
  · exact h.ordered
  · rw [subscribed_drop]
    exact h.nextId_eq
  · exact h.entries_eq.trans (live_drop id).symm
  · exact h.nodup.erase id
  · exact fun other hother => h.lt_nextId other (List.mem_of_mem_erase hother)
  · rw [returned_drop]
    exact fun other hother => h.kept other (List.mem_of_mem_erase hother)
  · rw [returned_drop]
    exact h.returned_lt

/-- One call. -/
theorem call? (h : holding.Accounts calls) {call : Call α} (hcall : holding.call? call = some after) :
    after.Accounts (calls ++ [call]) := by
  cases call with
  | subscribe callback =>
    cases hcall
    exact h.subscribe callback
  | unsubscribe id =>
    rw [Holding.call?, Option.ite_none_right_eq_some] at hcall
    obtain ⟨hid, heq⟩ := hcall
    cases heq
    exact h.unsubscribe hid
  | drop id =>
    rw [Holding.call?, Option.ite_none_right_eq_some] at hcall
    obtain ⟨-, heq⟩ := hcall
    cases heq
    exact h.drop id

/-- All calls of a registry. -/
theorem of_calls? (hcalls : ({} : Holding α).calls? calls = some holding) : holding.Accounts calls := by
  induction calls using List.reverseRecOn generalizing holding with
  | nil =>
    cases hcalls
    exact accounts_empty
  | append_singleton calls call ih =>
    obtain ⟨middle, hmiddle, hcall⟩ := calls?_concat_eq_some hcalls
    exact (ih hmiddle).call? hcall

/-- A registration in hand is that of one callback, and taking it back removes this one from among the others. -/
theorem unsubscribe_eq (h : holding.Accounts calls) {id : Nat} (hid : id ∈ holding.handles) :
    ∃ callback before later, (subscribed calls)[id]? = some callback ∧
      holding.registry.entries = before ++ (id, callback) :: later ∧
      (holding.registry.unsubscribe id).entries = before ++ later := by
  have hlt : id < (subscribed calls).length := h.nextId_eq ▸ h.lt_nextId id hid
  have hcallback : (subscribed calls)[id]? = some (subscribed calls)[id] := List.getElem?_eq_getElem hlt
  have hmem : (id, (subscribed calls)[id]) ∈ holding.registry.entries :=
    h.entries_eq ▸ mem_live.2 ⟨hcallback, h.kept id hid⟩
  obtain ⟨before, later, hentries⟩ := List.append_of_mem hmem
  refine ⟨_, before, later, hcallback, hentries, ?_⟩
  have hsorted := h.ordered.sorted
  rw [ids, hentries, List.map_append, List.map_cons, List.pairwise_append, List.pairwise_cons] at hsorted
  obtain ⟨-, ⟨hlater, -⟩, hbefore⟩ := hsorted
  rw [Registry.unsubscribe, hentries, List.filter_append, List.filter_cons_of_neg (by simp)]
  have hothers {others : List (Nat × α)} (hne : ∀ entry ∈ others, entry.1 ≠ id) :
      others.filter (·.1 ≠ id) = others :=
    List.filter_eq_self.2 fun entry hentry => decide_eq_true (hne entry hentry)
  rw [hothers fun entry hentry => Nat.ne_of_lt (hbefore _ (List.mem_map_of_mem hentry) id List.mem_cons_self),
    hothers fun entry hentry => Nat.ne_of_gt (hlater _ (List.mem_map_of_mem hentry))]

end Accounts

end Holding

section Sessions

variable {world after : World κ σ ε}

private theorem keepsSets_detach (world : World κ σ ε) (router : RouterId) : KeepsSets world (world.detach router) := by
  rw [World.detach]
  split <;> exact .of_handles_eq rfl rfl

private theorem keepsSets_releaseRouter (world : World κ σ ε) (router : RouterId) :
    KeepsSets world (world.releaseRouter router) := by
  rw [World.releaseRouter]
  split
  · exact .of_handles_eq rfl rfl
  · dsimp only
    split
    · have hdetached : KeepsSets world ((world.modifyRouter router _).detach router) :=
        keepsSets_detach (world.modifyRouter router fun r => { r with holders := r.holders - 1 }) router
      exact hdetached.trans (.of_handles_eq rfl rfl)
    · exact .of_handles_eq rfl rfl

/-- What minor changes do to sets of observers is done by calls. -/
theorem Minor.keepsSets (hminor : Minor world after) : KeepsSets world after := by
  cases hminor with
  | elsewhere _ _ _ _ _ hsets => exact hsets
  | release router => exact keepsSets_releaseRouter world router
  | detach router => exact keepsSets_detach world router
  | listen callback => exact .of_sets_eq rfl fun _ => Subscription.idsAt_cons_of_ne nofun
  | unlisten id hhandle => exact .of_sets_eq rfl fun _ => Subscription.idsAt_erase_of_ne nofun
  | _ => exact .of_handles_eq rfl rfl

/-- Nothing but calls reaches the observers of a set, in all steps of a run. -/
theorem Run.abiding_keepsSets (start : World κ σ ε) : Abiding (KeepsSets start) where
  minor hminor hstart := hstart.trans hminor.keepsSets
  record hstart _ := hstart.trans (.of_handles_eq rfl rfl)
  travel hstart _ := hstart.trans (.of_handles_eq rfl rfl)
  relocate {world} hstart router := by
    refine hstart.trans ?_
    rw [World.relocate]
    split
    · exact .of_handles_eq rfl rfl
    · dsimp only
      split <;> exact .of_handles_eq rfl rfl
  replaceRoute {world} hstart router route := by
    refine hstart.trans ?_
    rw [World.replaceRoute]
    split <;> exact .of_handles_eq rfl rfl

end Sessions

open Registry in
/-- A registry holds exactly what was registered and not taken back. Whatever calls were made on it, in whichever order,
the ids of its registrations grow along the list and stay below the next one, which is the number of registrations that
were ever made. Its callbacks are those that were registered and not taken back, in the order of their registration.
Taking back a registration that is in hand removes its own callback, the one of the call that made it, and none besides,
and letting go of it changes nothing.

In a session the observers of a set are reached by such calls only. A request to register or to take back is one call,
whoever makes it, and what a program does comes to calls, however it ends and however deep the callbacks are that make
them. -/
theorem Holding.holds_live_of_calls {calls : List (Call κ)} {holding : Holding κ}
    (hcalls : ({} : Holding κ).calls? calls = some holding) :
    (holding.registry.ids.Pairwise (· < ·) ∧ (∀ id ∈ holding.registry.ids, id < holding.registry.nextId) ∧
      holding.registry.nextId = (subscribed calls).length ∧
      holding.registry.callbacks = (live calls).map Prod.snd ∧
      ∀ id ∈ holding.handles,
        (∃ callback before later, (subscribed calls)[id]? = some callback ∧
          holding.registry.entries = before ++ (id, callback) :: later ∧
          (holding.registry.unsubscribe id).entries = before ++ later) ∧
        ∃ after, holding.call? (.drop id) = some after ∧ after.registry = holding.registry) ∧
    ∀ {σ ε : Type} (host : Host κ σ ε) (world : World κ σ ε) (set : SetId), world.holding? set = some holding →
      (∀ (invoke : Invoke κ σ ε) (callback : κ), ∃ after,
        (Run.fulfil host invoke (.subscribe (.observers set) callback)).exec world =
          (.ok ⟨.observers set, holding.registry.nextId⟩, after) ∧
        after.holding? set = holding.call? (.subscribe callback)) ∧
      (∀ (invoke : Invoke κ σ ε), ∀ id ∈ holding.handles, ∃ after,
        (Run.fulfil host invoke (.unsubscribe ⟨.observers set, id⟩)).exec world = (.ok (), after) ∧
        after.holding? set = holding.call? (.unsubscribe id)) ∧
      ∀ {α : Type} (depth : Nat) (program : Program κ σ ε α), ∃ more after,
        (program.run host depth world).2.holding? set = some after ∧
        ({} : Holding κ).calls? (calls ++ more) = some after := by
  have haccounts := Accounts.of_calls? hcalls
  refine ⟨⟨haccounts.ordered.sorted, haccounts.ordered.lt_nextId, haccounts.nextId_eq, ?_, ?_⟩, ?_⟩
  · rw [callbacks, haccounts.entries_eq]
  · intro id hid
    exact ⟨haccounts.unsubscribe_eq hid, _, if_pos hid, rfl⟩
  · intro σ ε host world set hholding
    obtain ⟨hset, hhandles⟩ := World.holding?_eq_some_iff.1 hholding
    refine ⟨fun invoke callback => ?_, fun invoke id hid => ?_, fun depth program => ?_⟩
    · refine ⟨world.listenSet set callback, ?_, World.holding?_listenSet callback hholding⟩
      have hnext : (world.sets[set]?.map (·.nextId)).getD 0 = holding.registry.nextId := by rw [hset]; rfl
      exact hnext ▸ rfl
    · have hhandle : ⟨.observers set, id⟩ ∈ world.handles := Subscription.mem_idsAt.1 (hhandles ▸ hid)
      obtain ⟨later, hlater, hcall⟩ := World.holding?_unlistenSet hholding hhandle
      refine ⟨world.unlistenSet set id, ?_, hlater.trans hcall.symm⟩
      rw [Run.fulfil, Run.redeem, Run.exec_get_bind, if_pos (List.contains_iff_mem.2 hhandle)]
      rfl
    -- What a whole run does to the set comes to some calls more, whichever callbacks made them.
    · have hstart : KeepsSets world world := .of_handles_eq rfl rfl
      have hkeeps := (Run.abiding_keepsSets world).run host depth program hstart
      obtain ⟨more, after, hafter, hmore⟩ := hkeeps set holding hholding
      exact ⟨more, after, hafter, (calls?_append hcalls more).trans hmore⟩

/-- The members of the club of a session take their turns. The first one takes back the registration of the second, and the
third one has another member join, whose registration gets an id of its own. -/
theorem Holding.holds_live_clubSession :
    ∃ more after, ((Program.request (.notify 0)).run clubHost 3 clubSession).2.holding? 0 = some after ∧
      ({} : Holding Member).calls?
        ([.subscribe .quitter, .subscribe .grumbler, .subscribe .recruiter] ++ more) = some after ∧
      after.registry.entries = [(0, .quitter), (2, .recruiter), (3, .grumbler)] := by
  let club : Holding Member := ⟨⟨3, [(0, .quitter), (1, .grumbler), (2, .recruiter)]⟩, [2, 1, 0]⟩
  have hcalls : ({} : Holding Member).calls?
      [.subscribe .quitter, .subscribe .grumbler, .subscribe .recruiter] = some club := rfl
  have hclub : clubSession.holding? 0 = some club := by rfl
  obtain ⟨more, after, hafter, hmore⟩ :=
    ((holds_live_of_calls hcalls).2 clubHost clubSession 0 hclub).2.2 3 (Program.request (.notify 0))
  refine ⟨more, after, hafter, hmore, ?_⟩
  have hentries : (((Program.request (.notify 0)).run clubHost 3 clubSession).2.holding? 0).map (·.registry.entries) =
      some [(0, .quitter), (2, .recruiter), (3, .grumbler)] := by decide +kernel
  rw [hafter] at hentries
  exact Option.some.inj hentries

end PageRouter
