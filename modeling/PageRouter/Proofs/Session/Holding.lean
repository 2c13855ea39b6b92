import PageRouter.Session.World

namespace PageRouter

variable {κ σ ε α : Type}

/-- What is done with a registry. -/
inductive Registry.Call (α : Type) where
  | subscribe (callback : α)
  /-- Takes back a registration that is in hand. -/
  | unsubscribe (id : Nat)
  /-- Lets go of a registration that is in hand. -/
  | drop (id : Nat)
  deriving DecidableEq, Repr

/-- A registry, and the registrations in hand: those that were handed out and neither taken back nor let go. A
registration can be taken back once, and letting go of it leaves the callback registered. All that is done with a
registry is a sequence of such calls, whoever makes them and by whichever name the registry goes. -/
structure Holding (α : Type) where
  registry : Registry α := {}
  handles : List Nat := []
  deriving Repr

namespace Holding

/-- What comes of a call. A registration that is not in hand cannot be used. -/
def call? (holding : Holding α) : Registry.Call α → Option (Holding α)
  | .subscribe callback =>
    some ⟨holding.registry.subscribe callback, holding.registry.nextId :: holding.handles⟩
  | .unsubscribe id =>
    if id ∈ holding.handles then some ⟨holding.registry.unsubscribe id, holding.handles.erase id⟩ else none
  | .drop id =>
    if id ∈ holding.handles then some { holding with handles := holding.handles.erase id } else none

/-- What comes of calls that are made one after the other. -/
def calls? (holding : Holding α) (calls : List (Registry.Call α)) : Option (Holding α) :=
  calls.foldlM call? holding

/-- Calls that are made after others start from what came of those. -/
theorem calls?_append {holding middle : Holding α} {calls : List (Registry.Call α)}
    (hcalls : holding.calls? calls = some middle) (more : List (Registry.Call α)) :
    holding.calls? (calls ++ more) = middle.calls? more := by
  rw [calls?, List.foldlM_append]
  exact (congrArg (· >>= _) hcalls).trans (Option.bind_some _ _)

/-- The last of some calls is made where the ones before it led. -/
theorem calls?_concat_eq_some {holding after : Holding α} {calls : List (Registry.Call α)}
    {call : Registry.Call α} (hcalls : holding.calls? (calls ++ [call]) = some after) :
    ∃ middle, holding.calls? calls = some middle ∧ middle.call? call = some after := by
  rw [calls?, List.foldlM_append, Option.bind_eq_bind, Option.bind_eq_some_iff] at hcalls
  obtain ⟨middle, hmiddle, hcall⟩ := hcalls
  rw [List.foldlM_cons, Option.bind_eq_bind, Option.bind_eq_some_iff] at hcall
  obtain ⟨last, hcall, hlast⟩ := hcall
  cases hlast
  exact ⟨middle, hmiddle, hcall⟩

end Holding

namespace Subscription

/-- The ids of the registrations at a channel. -/
def idsAt (channel : Channel) (handles : List Subscription) : List Nat :=
  handles.filterMap fun handle => if handle.channel = channel then some handle.id else none

variable {channel : Channel} {handles : List Subscription}

private theorem idsAt_cons_self (id : Nat) : idsAt channel (⟨channel, id⟩ :: handles) = id :: idsAt channel handles :=
  List.filterMap_cons_some (if_pos rfl)

/-- A registration elsewhere is none at the channel. -/
theorem idsAt_cons_of_ne {handle : Subscription} (hne : handle.channel ≠ channel) :
    idsAt channel (handle :: handles) = idsAt channel handles :=
  List.filterMap_cons_none (if_neg hne)

/-- A registration at a channel is in hand if its id is among those in hand there. -/
theorem mem_idsAt {id : Nat} : id ∈ idsAt channel handles ↔ ⟨channel, id⟩ ∈ handles := by
  rw [idsAt, List.mem_filterMap]
  constructor
  · rintro ⟨⟨other, id'⟩, hmem, hid⟩
    dsimp only at hid
    split at hid
    · next hchannel => cases hid; exact hchannel ▸ hmem
    · cases hid
  · exact fun hmem => ⟨⟨channel, id⟩, hmem, if_pos rfl⟩

private theorem idsAt_erase_self (id : Nat) :
    idsAt channel (handles.erase ⟨channel, id⟩) = (idsAt channel handles).erase id := by
  induction handles with
  | nil => rfl
  | cons first more ih =>
    obtain ⟨other, id'⟩ := first
    by_cases hchannel : other = channel
    · subst hchannel
      rw [idsAt_cons_self]
      by_cases hid : id' = id
      · subst hid
        rw [List.erase_cons_head, List.erase_cons_head]
      · rw [List.erase_cons_tail (by simpa using hid), List.erase_cons_tail (by simpa using hid), idsAt_cons_self, ih]
    · rw [List.erase_cons_tail (by simpa using fun h => absurd h hchannel), idsAt_cons_of_ne hchannel,
        idsAt_cons_of_ne hchannel, ih]

/-- Taking back a registration elsewhere leaves those at the channel in hand. -/
theorem idsAt_erase_of_ne {handle : Subscription} (hne : handle.channel ≠ channel) :
    idsAt channel (handles.erase handle) = idsAt channel handles := by
  induction handles with
  | nil => rfl
  | cons first more ih =>
    by_cases hfirst : first = handle
    · rw [hfirst, List.erase_cons_head, idsAt_cons_of_ne hne]
    · rw [List.erase_cons_tail (by simpa using hfirst)]
      by_cases hchannel : first.channel = channel
      · obtain ⟨_, id⟩ := first
        subst hchannel
        rw [idsAt_cons_self, idsAt_cons_self, ih]
      · rw [idsAt_cons_of_ne hchannel, idsAt_cons_of_ne hchannel, ih]

end Subscription

namespace World

/-- The observers of a set, and those of its registrations that the host has in its hands. -/
def holding? (world : World κ σ ε) (set : SetId) : Option (Holding κ) :=
  world.sets[set]?.map fun registry => ⟨registry, Subscription.idsAt (.observers set) world.handles⟩

/-- What is held of a set is its registry and the ids in hand at its channel. -/
theorem holding?_eq_some_iff {world : World κ σ ε} {set : SetId} {holding : Holding κ} :
    world.holding? set = some holding ↔ world.sets[set]? = some holding.registry ∧
      Subscription.idsAt (.observers set) world.handles = holding.handles := by
  rw [holding?, Option.map_eq_some_iff]
  constructor
  · rintro ⟨registry, hset, rfl⟩
    exact ⟨hset, rfl⟩
  · rintro ⟨hset, hhandles⟩
    exact ⟨holding.registry, hset, hhandles ▸ rfl⟩

/-- A session after an observer of a set was registered, and the registration handed out. One at a set that is not there
comes to nothing. -/
abbrev listenSet (world : World κ σ ε) (set : SetId) (callback : κ) : World κ σ ε :=
  { world with
    sets := world.sets.modify set (·.subscribe callback)
    handles := ⟨.observers set, (world.sets[set]?.map (·.nextId)).getD 0⟩ :: world.handles }

/-- A session after a registration at a set was taken back. -/
abbrev unlistenSet (world : World κ σ ε) (set : SetId) (id : Nat) : World κ σ ε :=
  { world with
    sets := world.sets.modify set (·.unsubscribe id)
    handles := world.handles.erase ⟨.observers set, id⟩ }

/-- Registering an observer of a set is a call at that set. -/
theorem holding?_listenSet {world : World κ σ ε} {set : SetId} {holding : Holding κ} (callback : κ)
    (hholding : world.holding? set = some holding) :
    (world.listenSet set callback).holding? set =
      some ⟨holding.registry.subscribe callback, holding.registry.nextId :: holding.handles⟩ := by
  obtain ⟨hset, hheld⟩ := holding?_eq_some_iff.1 hholding
  refine holding?_eq_some_iff.2 ⟨?_, ?_⟩
  · rw [List.getElem?_modify_eq, hset]
    rfl
  · rw [Subscription.idsAt_cons_self, hheld, hset]
    rfl

private theorem holding?_listenSet_of_ne (world : World κ σ ε) {set other : SetId} (callback : κ) (hne : set ≠ other) :
    (world.listenSet set callback).holding? other = world.holding? other := by
  rw [holding?, List.getElem?_modify_ne _ _ hne, Subscription.idsAt_cons_of_ne (by simpa using hne), holding?]

/-- Taking back a registration at a set is a call at that set. -/
theorem holding?_unlistenSet {world : World κ σ ε} {set : SetId} {holding : Holding κ} {id : Nat}
    (hholding : world.holding? set = some holding) (hhandle : ⟨.observers set, id⟩ ∈ world.handles) :
    ∃ later, (world.unlistenSet set id).holding? set = some later ∧ holding.call? (.unsubscribe id) = some later := by
  obtain ⟨hset, hheld⟩ := holding?_eq_some_iff.1 hholding
  refine ⟨⟨holding.registry.unsubscribe id, holding.handles.erase id⟩, holding?_eq_some_iff.2 ⟨?_, ?_⟩, if_pos ?_⟩
  · rw [List.getElem?_modify_eq, hset]
    rfl
  · rw [Subscription.idsAt_erase_self, hheld]
  · exact hheld ▸ Subscription.mem_idsAt.2 hhandle

private theorem holding?_unlistenSet_of_ne (world : World κ σ ε) {set other : SetId} (id : Nat) (hne : set ≠ other) :
    (world.unlistenSet set id).holding? other = world.holding? other := by
  rw [holding?, List.getElem?_modify_ne _ _ hne, Subscription.idsAt_erase_of_ne (by simpa using hne), holding?]

end World

/-- What becomes of the sets of a session is what comes of calls. -/
def KeepsSets (world after : World κ σ ε) : Prop :=
  ∀ set holding, world.holding? set = some holding →
    ∃ calls later, after.holding? set = some later ∧ holding.calls? calls = some later

namespace KeepsSets

variable {world after : World κ σ ε}

private theorem of_holding?_eq (heq : ∀ set, after.holding? set = world.holding? set) : KeepsSets world after :=
  fun set holding hholding => ⟨[], holding, (heq set).trans hholding, rfl⟩

/-- Nothing comes of what neither sets nor registrations at them take part in. -/
theorem of_sets_eq (hsets : after.sets = world.sets)
    (hheld : ∀ set, Subscription.idsAt (.observers set) after.handles =
      Subscription.idsAt (.observers set) world.handles) : KeepsSets world after :=
  of_holding?_eq fun set => by rw [World.holding?, World.holding?, hsets, hheld]

/-- Nothing comes of what concerns neither sets nor the registrations in hand. -/
theorem of_handles_eq (hsets : after.sets = world.sets) (hhandles : after.handles = world.handles) :
    KeepsSets world after :=
  of_sets_eq hsets fun _ => by rw [hhandles]

/-- Calls after calls are calls. -/
theorem trans {last : World κ σ ε} (hfirst : KeepsSets world after) (hsecond : KeepsSets after last) :
    KeepsSets world last := by
  intro set holding hholding
  obtain ⟨calls, middle, hmiddle, hcalls⟩ := hfirst set holding hholding
  obtain ⟨more, later, hlater, hmore⟩ := hsecond set middle hmiddle
  exact ⟨calls ++ more, later, hlater, (Holding.calls?_append hcalls more).trans hmore⟩

/-- A call at one set leaves all other sets alone. -/
theorem of_call (set : SetId) (hothers : ∀ other, other ≠ set → after.holding? other = world.holding? other)
    (hcall : ∀ holding, world.holding? set = some holding →
      ∃ call later, after.holding? set = some later ∧ holding.call? call = some later) : KeepsSets world after := by
  intro other holding hholding
  by_cases hsame : other = set
  · subst hsame
    obtain ⟨call, later, hlater, hcall⟩ := hcall holding hholding
    refine ⟨[call], later, hlater, ?_⟩
    rw [Holding.calls?, List.foldlM_cons, hcall]
    rfl
  · exact ⟨[], holding, (hothers other hsame).trans hholding, rfl⟩

/-- Opening a set makes no call at the ones that are there. -/
theorem opened (world : World κ σ ε) : KeepsSets world { world with sets := world.sets ++ [{}] } := by
  intro set holding hholding
  obtain ⟨hset, hheld⟩ := World.holding?_eq_some_iff.1 hholding
  refine ⟨[], holding, World.holding?_eq_some_iff.2 ⟨?_, hheld⟩, rfl⟩
  exact (List.getElem?_append_left (List.getElem?_eq_some_iff.1 hset).1).trans hset

/-- Registering an observer of one set is a call there and leaves all other sets alone. -/
theorem listenSet (world : World κ σ ε) (set : SetId) (callback : κ) :
    KeepsSets world (world.listenSet set callback) := by
  refine of_call set (fun other hother => world.holding?_listenSet_of_ne callback hother.symm) ?_
  exact fun holding hholding => ⟨.subscribe callback, _, World.holding?_listenSet callback hholding, rfl⟩

/-- Taking back a registration at one set is a call there and leaves all other sets alone. -/
theorem unlistenSet (world : World κ σ ε) {set : SetId} {id : Nat} (hhandle : ⟨.observers set, id⟩ ∈ world.handles) :
    KeepsSets world (world.unlistenSet set id) := by
  refine of_call set (fun other hother => world.holding?_unlistenSet_of_ne id hother.symm) ?_
  intro holding hholding
  obtain ⟨later, hlater, hcall⟩ := World.holding?_unlistenSet hholding hhandle
  exact ⟨.unsubscribe id, later, hlater, hcall⟩

end KeepsSets

end PageRouter
