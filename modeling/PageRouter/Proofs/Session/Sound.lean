import PageRouter.Proofs.Session.Follow
import PageRouter.Proofs.Session.Registry

namespace PageRouter

variable {κ σ ε : Type}

namespace Router

/-- A router that listens to changes is held by somebody, and its observers are in order. -/
structure Sound (r : Router κ) : Prop where
  held : r.subscription ≠ none → 0 < r.holders
  locations : r.locationObservers.Ordered
  routes : r.routeObservers.Ordered

/-- A router at a later time. Its registration at the history can only be lost. -/
structure Later (r after : Router κ) : Prop where
  subscription : after.subscription ≠ none → r.subscription ≠ none
  locations : r.locationObservers.Later after.locationObservers
  routes : r.routeObservers.Later after.routeObservers

/-- A router that shows what it showed before. -/
structure Kept (r after : Router κ) : Prop extends r.Later after where
  tree : after.tree = r.tree
  location : after.location = r.location
  route : after.route = r.route

theorem Later.refl (r : Router κ) : r.Later r :=
  ⟨id, .refl _, .refl _⟩

private theorem Later.trans {first second third : Router κ} (hfirst : first.Later second)
    (hsecond : second.Later third) : first.Later third where
  subscription hlistens := hfirst.subscription (hsecond.subscription hlistens)
  locations := hfirst.locations.trans hsecond.locations
  routes := hfirst.routes.trans hsecond.routes

private theorem Kept.refl (r : Router κ) : r.Kept r :=
  ⟨.refl r, rfl, rfl, rfl⟩

/-- What a router showed before it still shows after any number of changes that keep that. -/
theorem Kept.trans {first second third : Router κ} (hfirst : first.Kept second)
    (hsecond : second.Kept third) : first.Kept third where
  toLater := hfirst.toLater.trans hsecond.toLater
  tree := hsecond.tree.trans hfirst.tree
  location := hsecond.location.trans hfirst.location
  route := hsecond.route.trans hfirst.route

end Router

namespace World

/-- What is true of a session whatever happens to it: ids are in order and never used again, and the routers that
listen to changes of the history are those that have a registration, which are held by somebody. -/
structure Sound (world : World κ σ ε) : Prop where
  changes : world.changes.Ordered
  listens : ∀ id router, (id, .router router) ∈ world.changes.entries ↔
    ∃ r, world.routers[router]? = some r ∧ r.subscription = some id
  handles : ∀ id, ⟨.changes, id⟩ ∈ world.handles →
    id < world.changes.nextId ∧ ∀ router, (id, .router router) ∉ world.changes.entries
  routers : ∀ (router : RouterId) (r : Router κ), world.routers[router]? = some r → r.Sound
  detached : ∀ (router : RouterId) (r : Router κ), world.routers[router]? = some r →
    r.subscription = none → .detached router ∈ world.journal

/-- Routers stay, even those that nobody holds, and each of them becomes one that is related to it. -/
def Each (P : Router κ → Router κ → Prop) (world after : World κ σ ε) : Prop :=
  ∀ (router : RouterId) (r : Router κ), world.routers[router]? = some r →
    ∃ r', after.routers[router]? = some r' ∧ P r r'

/-- A session at a later time. -/
def Later (world after : World κ σ ε) : Prop :=
  world.Each Router.Later after

section Each

variable {P : Router κ → Router κ → Prop}

/-- Where nothing happens to routers, each of them is related to itself. -/
theorem each_of_routers_eq (hrefl : ∀ r, P r r) {world after : World κ σ ε}
    (hrouters : after.routers = world.routers) : world.Each P after :=
  fun _ r hrouter => ⟨r, hrouters ▸ hrouter, hrefl r⟩

/-- Changes of all routers, one after the other, by a relation that is transitive. -/
theorem Each.trans (htrans : ∀ first second third, P first second → P second third → P first third)
    {first second third : World κ σ ε} (hfirst : first.Each P second) (hsecond : second.Each P third) :
    first.Each P third := by
  intro router r hrouter
  obtain ⟨r', hrouter', hrelated⟩ := hfirst router r hrouter
  obtain ⟨r'', hrouter'', hrelated'⟩ := hsecond router r' hrouter'
  exact ⟨r'', hrouter'', htrans _ _ _ hrelated hrelated'⟩

/-- What each router becomes is described more widely by a wider relation. -/
theorem Each.mono {Q : Router κ → Router κ → Prop} (hPQ : ∀ {r r'}, P r r' → Q r r')
    {world after : World κ σ ε} (h : world.Each P after) : world.Each Q after := by
  intro router r hrouter
  obtain ⟨r', hrouter', hrelated⟩ := h router r hrouter
  exact ⟨r', hrouter', hPQ hrelated⟩

end Each

/-- What is later than a later session is later. -/
theorem Later.trans {first second third : World κ σ ε} (hfirst : first.Later second)
    (hsecond : second.Later third) : first.Later third :=
  Each.trans (fun _ _ _ => .trans) hfirst hsecond

/-- Changing one router leaves the others as they are. -/
theorem getElem?_modifyRouter (world : World κ σ ε) (router : RouterId) (f : Router κ → Router κ)
    (other : RouterId) :
    (world.modifyRouter router f).routers[other]? =
      if router = other then world.routers[other]?.map f else world.routers[other]? := by
  rw [modifyRouter, List.getElem?_modify]
  split <;> simp

private theorem of_getElem?_modifyRouter {world : World κ σ ε} {router other : RouterId} {f : Router κ → Router κ}
    {r : Router κ} (h : (world.modifyRouter router f).routers[other]? = some r) :
    ∃ r', world.routers[other]? = some r' ∧ (router = other ∧ r = f r' ∨ r = r') := by
  rw [getElem?_modifyRouter] at h
  split at h
  · next heq =>
    obtain ⟨r', hrouter, rfl⟩ := Option.map_eq_some_iff.1 h
    exact ⟨r', hrouter, .inl ⟨heq, rfl⟩⟩
  · exact ⟨r, h, .inr rfl⟩

private theorem of_getElem?_concat {routers : List (Router κ)} {router r : Router κ} {other : RouterId}
    (h : (routers ++ [router])[other]? = some r) : routers[other]? = some r ∨ r = router := by
  rw [List.getElem?_append] at h
  split at h
  · exact .inl h
  · exact .inr (List.mem_singleton.1 (List.mem_of_getElem? h))

/-- A change of one router by which each would be related to what it becomes. -/
theorem each_modifyRouter {P : Router κ → Router κ → Prop} (hrefl : ∀ r, P r r) (world : World κ σ ε)
    {router : RouterId} {f : Router κ → Router κ} (hf : ∀ r, P r (f r)) :
    world.Each P (world.modifyRouter router f) := by
  intro other r hother
  rw [getElem?_modifyRouter, hother]
  split
  · exact ⟨f r, rfl, hf r⟩
  · exact ⟨r, rfl, hrefl r⟩

/-- A router that does not listen is not detached again. -/
theorem detach_of_none {world : World κ σ ε} {router : RouterId}
    (hsubscription : world.routers[router]?.bind (·.subscription) = none) :
    world.detach router = world := by
  rw [detach, hsubscription]

/-- A router that is detached loses its registration, which is noted. -/
theorem detach_of_some {world : World κ σ ε} {router : RouterId} {id : Nat}
    (hsubscription : world.routers[router]?.bind (·.subscription) = some id) :
    world.detach router = ({ world with changes := world.changes.unsubscribe id }.modifyRouter router
      fun r => { r with subscription := none }).record (.detached router) := by
  rw [detach, hsubscription]

/-- Detaching a router and changing something else about it can be done in either order. -/
theorem detach_modifyRouter {world : World κ σ ε} {router : RouterId} {f : Router κ → Router κ}
    (hsubscription : ∀ r : Router κ, (f r).subscription = r.subscription)
    (hcommute : ∀ r : Router κ, { f r with subscription := none } = f { r with subscription := none }) :
    (world.modifyRouter router f).detach router = (world.detach router).modifyRouter router f := by
  have hkept : (world.modifyRouter router f).routers[router]?.bind (·.subscription) =
      world.routers[router]?.bind (·.subscription) := by
    rw [getElem?_modifyRouter, if_pos rfl, Option.bind_map]
    exact congrArg _ (funext hsubscription)
  rcases hid : world.routers[router]?.bind (·.subscription) with _ | id
  · rw [detach_of_none hid, detach_of_none (hkept.trans hid)]
  · rw [detach_of_some hid, detach_of_some (hkept.trans hid)]
    simp only [modifyRouter, record, List.modify_modify_eq]
    congr 2
    exact funext hcommute

private theorem getElem?_detach_of_some {world : World κ σ ε} {router : RouterId} {id : Nat}
    (hsubscription : world.routers[router]?.bind (·.subscription) = some id) (other : RouterId) :
    (world.detach router).routers[other]? =
      if router = other then world.routers[other]?.map fun r => { r with subscription := none }
      else world.routers[other]? := by
  rw [detach_of_some hsubscription]
  exact getElem?_modifyRouter { world with changes := world.changes.unsubscribe id } router _ other

/-- A detached router has no registration. -/
theorem subscription_of_detach {world : World κ σ ε} {router : RouterId} {r : Router κ}
    (hrouter : (world.detach router).routers[router]? = some r) : r.subscription = none := by
  rcases hid : world.routers[router]?.bind (·.subscription) with _ | id
  · rw [detach_of_none hid] at hrouter
    rwa [hrouter] at hid
  · rw [getElem?_detach_of_some hid, if_pos rfl] at hrouter
    obtain ⟨r', -, rfl⟩ := Option.map_eq_some_iff.1 hrouter
    rfl

private theorem each_detach {P : Router κ → Router κ → Prop} (hrefl : ∀ r, P r r)
    (hlost : ∀ r : Router κ, P r { r with subscription := none }) (world : World κ σ ε) (router : RouterId) :
    world.Each P (world.detach router) := by
  rcases hid : world.routers[router]?.bind (·.subscription) with _ | id
  · rw [detach_of_none hid]
    exact each_of_routers_eq hrefl rfl
  · rw [detach_of_some hid]
    exact each_modifyRouter hrefl { world with changes := world.changes.unsubscribe id } hlost

/-- Detaching a router changes nothing about what routers show. -/
theorem kept_detach (world : World κ σ ε) (router : RouterId) :
    world.Each Router.Kept (world.detach router) :=
  each_detach .refl (fun _ => ⟨⟨fun hlistens => absurd rfl hlistens, .refl _, .refl _⟩, rfl, rfl, rfl⟩) world router

@[simp] theorem history_detach (world : World κ σ ε) (router : RouterId) :
    (world.detach router).history = world.history := by
  rw [detach]
  split <;> rfl

@[simp] theorem history_releaseRouter (world : World κ σ ε) (router : RouterId) :
    (world.releaseRouter router).history = world.history := by
  rw [releaseRouter]
  split
  · rfl
  · dsimp only
    split
    · exact history_detach ..
    · rfl

/-- Letting go of a router takes a holder away from it and detaches it at most. -/
theorem each_releaseRouter {P : Router κ → Router κ → Prop} (hrefl : ∀ r, P r r)
    (htrans : ∀ first second third, P first second → P second third → P first third)
    (hless : ∀ r : Router κ, P r { r with holders := r.holders - 1 })
    (hlost : ∀ r : Router κ, P r { r with subscription := none }) (world : World κ σ ε) (router : RouterId) :
    world.Each P (world.releaseRouter router) := by
  rw [releaseRouter]
  rcases world.routers[router]? with _ | r
  · exact each_of_routers_eq hrefl rfl
  · have hreleased : world.Each P (world.modifyRouter router fun r => { r with holders := r.holders - 1 }) :=
      each_modifyRouter hrefl world hless
    dsimp only
    split
    · exact hreleased.trans htrans (each_detach hrefl hlost _ router)
    · exact hreleased

/-- Letting go of a router changes nothing about what routers show. -/
theorem kept_releaseRouter (world : World κ σ ε) (router : RouterId) :
    world.Each Router.Kept (world.releaseRouter router) :=
  each_releaseRouter .refl (fun _ _ _ => .trans) (fun _ => ⟨⟨id, .refl _, .refl _⟩, rfl, rfl, rfl⟩)
    (fun _ => ⟨⟨fun hlistens => absurd rfl hlistens, .refl _, .refl _⟩, rfl, rfl, rfl⟩) world router

/-- A router that is not there takes over no location. -/
theorem relocate_of_none {world : World κ σ ε} {router : RouterId} (hrouter : world.routers[router]? = none) :
    world.relocate router = world := by
  rw [relocate, hrouter]

/-- A router that is relocated shows the current location, whether it had to take it over or not. -/
theorem relocate_of_some {world : World κ σ ε} {router : RouterId} {r : Router κ}
    (hrouter : world.routers[router]? = some r) :
    (r.location.value = world.history.location ∧ world.relocate router = world) ∨
      ∃ stored nextStamp, stored.value = world.history.location ∧
        world.relocate router = { world with nextStamp }.modifyRouter router
          fun r => { r with location := stored } := by
  rw [relocate, hrouter]
  by_cases hsame : r.location.value = world.history.location
  · exact .inl ⟨hsame, if_pos hsame⟩
  · exact .inr ⟨⟨world.nextStamp, world.history.location⟩, world.nextStamp + 1, rfl, if_neg hsame⟩

/-- Relocating leaves the world as it is, or changes what one router shows and what is stamped next. -/
theorem relocate_cases (world : World κ σ ε) (router : RouterId) :
    world.relocate router = world ∨ ∃ stored nextStamp, world.relocate router =
      { world with nextStamp }.modifyRouter router fun r => { r with location := stored } := by
  rcases hrouter : world.routers[router]? with _ | r
  · exact .inl (relocate_of_none hrouter)
  · obtain ⟨-, heq⟩ | ⟨stored, nextStamp, -, heq⟩ := relocate_of_some hrouter
    · exact .inl heq
    · exact .inr ⟨stored, nextStamp, heq⟩

/-- A router that is not there shows no other route. -/
theorem replaceRoute_of_none {world : World κ σ ε} {router : RouterId} (route : Option Match)
    (hrouter : world.routers[router]? = none) : world.replaceRoute router route = world := by
  rw [replaceRoute, hrouter]

/-- A router shows the route that it is given, stored with a stamp of its own, and the journal has both the old route
and the new one. -/
theorem replaceRoute_of_some {world : World κ σ ε} {router : RouterId} {r : Router κ} (route : Option Match)
    (hrouter : world.routers[router]? = some r) :
    ∃ (stored : Option (Stamped Match)) (nextStamp : Nat), stored.map (·.value) = route ∧
      world.replaceRoute router route = ({ world with nextStamp }.modifyRouter router
        fun r => { r with route := stored }).record (.routeReplaced router r.route stored) := by
  rw [replaceRoute, hrouter]
  exact ⟨_, _, by cases route <;> rfl, rfl⟩

/-- Replacing a route leaves the world as it is, or changes what one router shows and what is stamped next, and notes
that in the journal. -/
theorem replaceRoute_cases (world : World κ σ ε) (router : RouterId) (route : Option Match) :
    world.replaceRoute router route = world ∨ ∃ shown stored nextStamp, world.replaceRoute router route =
      ({ world with nextStamp }.modifyRouter router fun r => { r with route := stored }).record
        (.routeReplaced router shown stored) := by
  rcases hrouter : world.routers[router]? with _ | r
  · exact .inl (replaceRoute_of_none route hrouter)
  · obtain ⟨stored, nextStamp, -, heq⟩ := replaceRoute_of_some route hrouter
    exact .inr ⟨r.route, stored, nextStamp, heq⟩

/-- The other routers show what they showed when one of them takes over the location of the history. -/
theorem getElem?_relocate_of_ne {world : World κ σ ε} {router other : RouterId} (hother : other ≠ router) :
    (world.relocate router).routers[other]? = world.routers[other]? := by
  rcases world.relocate_cases router with heq | ⟨stored, nextStamp, heq⟩
  · rw [heq]
  · rw [heq, getElem?_modifyRouter, if_neg hother.symm]

/-- A router that takes over the location of the history shows that, whether it was stored before or not. -/
theorem getElem?_relocate_self {world : World κ σ ε} {router : RouterId} {r : Router κ}
    (hrouter : world.routers[router]? = some r) :
    ∃ stored, stored.value = world.history.location ∧
      (world.relocate router).routers[router]? = some { r with location := stored } := by
  obtain ⟨hlocation, heq⟩ | ⟨stored, nextStamp, hstored, heq⟩ := relocate_of_some hrouter
  · refine ⟨r.location, hlocation, ?_⟩
    rw [heq]
    exact hrouter
  · refine ⟨stored, hstored, ?_⟩
    rw [heq, getElem?_modifyRouter, if_pos rfl]
    exact congrArg (Option.map _) hrouter

@[simp] theorem history_relocate (world : World κ σ ε) (router : RouterId) :
    (world.relocate router).history = world.history := by
  rcases world.relocate_cases router with heq | ⟨stored, nextStamp, heq⟩
  · rw [heq]
  · rw [heq]
    rfl

/-- The other routers show what they showed when one of them shows another route. -/
theorem getElem?_replaceRoute_of_ne {world : World κ σ ε} {router other : RouterId} (route : Option Match)
    (hother : other ≠ router) : (world.replaceRoute router route).routers[other]? = world.routers[other]? := by
  rcases world.replaceRoute_cases router route with heq | ⟨shown, stored, nextStamp, heq⟩
  · rw [heq]
  · rw [heq]
    exact (getElem?_modifyRouter { world with nextStamp } router _ other).trans (if_neg hother.symm)

/-- A router whose route is replaced shows the other one, and keeps its location. -/
theorem getElem?_replaceRoute_self {world : World κ σ ε} {router : RouterId} {r : Router κ}
    (route : Option Match) (hrouter : world.routers[router]? = some r) :
    ∃ stored : Option (Stamped Match), stored.map (·.value) = route ∧
      (world.replaceRoute router route).routers[router]? = some { r with route := stored } ∧
      (world.replaceRoute router route).journal = .routeReplaced router r.route stored :: world.journal := by
  obtain ⟨stored, nextStamp, hstored, heq⟩ := replaceRoute_of_some route hrouter
  refine ⟨stored, hstored, ?_, by rw [heq]; rfl⟩
  rw [heq]
  refine (getElem?_modifyRouter { world with nextStamp } router _ router).trans ((if_pos rfl).trans ?_)
  exact congrArg (Option.map _) hrouter

@[simp] theorem history_replaceRoute (world : World κ σ ε) (router : RouterId) (route : Option Match) :
    (world.replaceRoute router route).history = world.history := by
  rcases world.replaceRoute_cases router route with heq | ⟨shown, stored, nextStamp, heq⟩
  · rw [heq]
  · rw [heq]
    rfl

/-- A router that takes over a location does not concern the blockers of guards. -/
theorem relocate_keepsGuards (world : World κ σ ε) (router : RouterId) :
    KeepsGuards world (world.relocate router) ∧ (world.relocate router).journal = world.journal := by
  rw [World.relocate]
  split
  · exact ⟨.of_eq rfl rfl rfl, rfl⟩
  · dsimp only
    split
    · exact ⟨.of_eq rfl rfl rfl, rfl⟩
    · exact ⟨.of_eq rfl rfl rfl, rfl⟩

/-- A session at its start is sound. -/
theorem sound_single (location : Location) (memory : σ) :
    ({ history := .single location, memory } : World κ σ ε).Sound where
  changes := Registry.ordered_empty
  listens := by simp
  handles := by simp
  routers := by simp
  detached := by simp

namespace Sound

variable {world after : World κ σ ε}

private theorem elsewhere (h : world.Sound) (hchanges : after.changes = world.changes)
    (hrouters : after.routers = world.routers)
    (hhandles : ∀ id, ⟨.changes, id⟩ ∈ after.handles → ⟨.changes, id⟩ ∈ world.handles)
    (hjournal : world.journal ⊆ after.journal) : after.Sound where
  changes := hchanges ▸ h.changes
  listens := by
    rw [hchanges, hrouters]
    exact h.listens
  handles id hid := by
    rw [hchanges]
    exact h.handles id (hhandles id hid)
  routers := by
    rw [hrouters]
    exact h.routers
  detached router r hrouter hgone := hjournal (h.detached router r (hrouters ▸ hrouter) hgone)

/-- A router that nobody holds does not listen any more. -/
theorem subscription_of_not_held (h : world.Sound) {router : RouterId} {r : Router κ}
    (hrouter : world.routers[router]? = some r) (hgone : world.isRouterHeld router = false) :
    r.subscription = none := by
  by_contra hlistens
  have hheld := (h.routers router r hrouter).held hlistens
  rw [isRouterHeld, hrouter, Option.any_some] at hgone
  simp [hheld] at hgone

/-- Nothing that is written into the journal makes a session unsound. -/
theorem record (h : world.Sound) (event : Event ε) : (world.record event).Sound :=
  h.elsewhere rfl rfl (fun _ hid => hid) fun _ hold => List.mem_cons_of_mem event hold

/-- What is true of a session does not depend on where its history is. -/
theorem travel (h : world.Sound) (history : History) : Sound { world with history } :=
  h.elsewhere rfl rfl (fun _ hid => hid) fun _ hold => hold

private theorem stamped (h : world.Sound) (nextStamp : Nat) : Sound { world with nextStamp } :=
  h.elsewhere rfl rfl (fun _ hid => hid) fun _ hold => hold

/-- A router may change in every way that keeps it sound and leaves its registration. -/
theorem modifyRouter (h : world.Sound) {router : RouterId} {f : Router κ → Router κ}
    (hf : ∀ r : Router κ, world.routers[router]? = some r → r.Sound →
      (f r).Sound ∧ (f r).subscription = r.subscription) :
    (world.modifyRouter router f).Sound where
  changes := h.changes
  listens id other := by
    rw [getElem?_modifyRouter]
    refine (h.listens id other).trans ?_
    split
    · next heq =>
      subst heq
      rcases hrouter : world.routers[router]? with _ | r
      · simp
      · simp [(hf r hrouter (h.routers router r hrouter)).2]
    · exact Iff.rfl
  handles := h.handles
  routers other r hother := by
    obtain ⟨r', hrouter, ⟨rfl, rfl⟩ | rfl⟩ := of_getElem?_modifyRouter hother
    · exact (hf r' hrouter (h.routers router r' hrouter)).1
    · exact h.routers other r hrouter
  detached other r hother hgone := by
    obtain ⟨r', hrouter, ⟨rfl, rfl⟩ | rfl⟩ := of_getElem?_modifyRouter hother
    · exact h.detached router r' hrouter ((hf r' hrouter (h.routers router r' hrouter)).2.symm.trans hgone)
    · exact h.detached other r hrouter hgone

/-- A router that is detached takes its registration with it, and no other. -/
theorem listens_detach (h : world.Sound) {router : RouterId} {id : Nat}
    (hid : world.routers[router]?.bind (·.subscription) = some id) (id' : Nat) (other : RouterId) :
    (id', .router other) ∈ (world.changes.unsubscribe id).entries ↔
      ∃ r, (world.detach router).routers[other]? = some r ∧ r.subscription = some id' := by
  obtain ⟨r, hrouter, hsubscription⟩ := Option.bind_eq_some_iff.1 hid
  rw [Registry.mem_unsubscribe, getElem?_detach_of_some hid, h.listens id' other]
  split
  · next heq =>
    subst heq
    simp only [hrouter, Option.map_some, Option.some.injEq, exists_eq_left', hsubscription]
    constructor
    · exact fun ⟨heq, hne⟩ => absurd heq.symm hne
    · exact fun heq => absurd heq (by simp)
  · next hne =>
    refine and_iff_left_of_imp fun hlistens heq => hne ?_
    have hentry : (id, .router router) ∈ world.changes.entries :=
      (h.listens id router).2 ⟨r, hrouter, hsubscription⟩
    have hother := (h.listens id' other).2 hlistens
    rw [show id' = id from heq] at hother
    exact Listener.router.inj (h.changes.eq_of_mem hentry hother)

/-- A session in which a router is detached has no listener that the router left behind. -/
theorem detach (h : world.Sound) (router : RouterId) : (world.detach router).Sound := by
  rcases hid : world.routers[router]?.bind (·.subscription) with _ | id
  · rwa [detach_of_none hid]
  · have hchanges : (world.detach router).changes = world.changes.unsubscribe id := by
      rw [detach_of_some hid]
      rfl
    have hhandles : (world.detach router).handles = world.handles := by
      rw [detach_of_some hid]
      rfl
    have hjournal : (world.detach router).journal = .detached router :: world.journal := by
      rw [detach_of_some hid]
      rfl
    refine ⟨?_, fun id' other => ?_, fun id' hid' => ?_, fun other r' hother => ?_, fun other r' hother hgone => ?_⟩
    · rw [hchanges]
      exact h.changes.unsubscribe id
    · rw [hchanges]
      exact h.listens_detach hid id' other
    · rw [hhandles] at hid'
      rw [hchanges]
      refine ⟨(h.handles id' hid').1, fun other hother => ?_⟩
      exact (h.handles id' hid').2 other (Registry.mem_unsubscribe.1 hother).1
    · rw [detach_of_some hid] at hother
      obtain ⟨r, hrouter, ⟨rfl, rfl⟩ | rfl⟩ := of_getElem?_modifyRouter hother
      · have hsound := h.routers router r hrouter
        exact ⟨fun hlistens => absurd rfl hlistens, hsound.locations, hsound.routes⟩
      · exact h.routers other r' hrouter
    · rw [hjournal]
      rw [detach_of_some hid] at hother
      obtain ⟨r, hrouter, ⟨rfl, rfl⟩ | rfl⟩ := of_getElem?_modifyRouter hother
      · exact List.mem_cons_self
      · exact List.mem_cons_of_mem _ (h.detached other r' hrouter hgone)

/-- A router that nobody holds any more is detached, so that only held ones listen. -/
theorem releaseRouter (h : world.Sound) (router : RouterId) : (world.releaseRouter router).Sound := by
  rw [World.releaseRouter]
  rcases hrouter : world.routers[router]? with _ | r
  · exact h
  · dsimp only
    split
    · -- The last holder leaves, so that the router must have left the history before anybody looks.
      rw [detach_modifyRouter (f := fun r => { r with holders := r.holders - 1 }) (fun _ => rfl) fun _ => rfl]
      have hreleased : ((world.detach router).modifyRouter router
          fun r => { r with holders := r.holders - 1 }).Sound := by
        refine (h.detach router).modifyRouter fun r' hrouter' hsound => ?_
        have hgone := subscription_of_detach hrouter'
        exact ⟨⟨fun hlistens => absurd hgone hlistens, hsound.locations, hsound.routes⟩, rfl⟩
      exact hreleased.elsewhere rfl rfl (fun _ hid => hid) fun _ hold => hold
    · next hmore =>
      refine h.modifyRouter fun r' hrouter' hsound =>
        ⟨⟨fun hlistens => ?_, hsound.locations, hsound.routes⟩, rfl⟩
      have hheld := hsound.held hlistens
      have hsame : r' = r := Option.some.inj (hrouter'.symm.trans hrouter)
      subst hsame
      show 0 < r'.holders - 1
      omega

private theorem listen (h : world.Sound) (callback : κ) :
    Sound { world with
      changes := world.changes.subscribe (.host callback)
      handles := ⟨.changes, world.changes.nextId⟩ :: world.handles } where
  changes := h.changes.subscribe _
  listens id router := by
    rw [Registry.mem_subscribe, ← h.listens]
    exact or_iff_left (by simp)
  handles id hid := by
    rcases List.mem_cons.1 hid with heq | hold
    · cases heq
      refine ⟨Nat.lt_succ_self _, fun router hrouter => ?_⟩
      rcases Registry.mem_subscribe.1 hrouter with hbefore | hnew
      · exact Nat.lt_irrefl _ (h.changes.lt_nextId _ (Registry.mem_ids_of_mem hbefore))
      · cases hnew
    · obtain ⟨hlt, hother⟩ := h.handles id hold
      refine ⟨Nat.lt_succ_of_lt hlt, fun router hrouter => ?_⟩
      rcases Registry.mem_subscribe.1 hrouter with hbefore | hnew
      · exact hother router hbefore
      · cases hnew
  routers := h.routers
  detached := h.detached

private theorem unlisten (h : world.Sound) {id : Nat} (hhandle : ⟨.changes, id⟩ ∈ world.handles) :
    Sound { world with
      changes := world.changes.unsubscribe id
      handles := world.handles.erase ⟨.changes, id⟩ } where
  changes := h.changes.unsubscribe id
  listens id' router := by
    rw [Registry.mem_unsubscribe, ← h.listens]
    refine and_iff_left_of_imp fun hmem heq => ?_
    exact (h.handles id hhandle).2 router (by rwa [show id' = id from heq] at hmem)
  handles id' hid' := by
    obtain ⟨hlt, hother⟩ := h.handles id' (List.mem_of_mem_erase hid')
    exact ⟨hlt, fun router hrouter => hother router (Registry.mem_unsubscribe.1 hrouter).1⟩
  routers := h.routers
  detached := h.detached

/-- A router that is opened listens under an id that was never used. -/
theorem opened (h : world.Sound) {router : Router κ} {guards : List (Guard κ)} {nextStamp : Nat}
    (hsubscription : router.subscription = some world.changes.nextId) (hsound : router.Sound) :
    Sound { world with
      routers := world.routers ++ [router]
      changes := world.changes.subscribe (.router world.routers.length)
      guards, nextStamp } where
  changes := h.changes.subscribe _
  listens id other := by
    rw [Registry.mem_subscribe, h.listens]
    rcases Nat.lt_trichotomy other world.routers.length with hlt | rfl | hgt
    · simp [List.getElem?_append_left hlt, Nat.ne_of_lt hlt]
    · simp [hsubscription, eq_comm]
    · have hnone : world.routers[other]? = none := List.getElem?_eq_none (Nat.le_of_lt hgt)
      have hnone' : (world.routers ++ [router])[other]? = none := List.getElem?_eq_none (by
        rw [List.length_append, List.length_singleton]
        omega)
      simp [hnone, hnone', Nat.ne_of_gt hgt]
  handles id hid := by
    obtain ⟨hlt, hother⟩ := h.handles id hid
    refine ⟨Nat.lt_succ_of_lt hlt, fun other hmem => ?_⟩
    rcases Registry.mem_subscribe.1 hmem with hbefore | hnew
    · exact hother other hbefore
    · exact Nat.ne_of_lt hlt (Prod.mk.inj hnew).1
  routers other r hother := by
    rcases of_getElem?_concat hother with hold | rfl
    · exact h.routers other r hold
    · exact hsound
  detached other r hother hgone := by
    rcases of_getElem?_concat hother with hold | rfl
    · exact h.detached other r hold hgone
    · rw [hsubscription] at hgone
      cases hgone

/-- A session stays sound when a router takes over the location of the history. -/
theorem relocate (h : world.Sound) (router : RouterId) : (world.relocate router).Sound := by
  rcases world.relocate_cases router with heq | ⟨stored, nextStamp, heq⟩
  · rwa [heq]
  · rw [heq]
    exact (h.stamped nextStamp).modifyRouter fun _ _ hsound =>
      ⟨⟨hsound.held, hsound.locations, hsound.routes⟩, rfl⟩

/-- A session stays sound when the route of a router is replaced. -/
theorem replaceRoute (h : world.Sound) (router : RouterId) (route : Option Match) :
    (world.replaceRoute router route).Sound := by
  rcases world.replaceRoute_cases router route with heq | ⟨shown, stored, nextStamp, heq⟩
  · rwa [heq]
  · have hreplaced : Sound ({ world with nextStamp }.modifyRouter router fun r => { r with route := stored }) :=
      (h.stamped nextStamp).modifyRouter fun _ _ hsound =>
        ⟨⟨hsound.held, hsound.locations, hsound.routes⟩, rfl⟩
    rw [heq]
    exact hreplaced.record _

end Sound

/-- When a router takes over the location of the history, routers change in nothing but their location. -/
theorem each_relocate {P : Router κ → Router κ → Prop} (hrefl : ∀ r, P r r)
    (hmoved : ∀ (r : Router κ) (location : Stamped Location), P r { r with location })
    (world : World κ σ ε) (router : RouterId) : world.Each P (world.relocate router) := by
  rcases world.relocate_cases router with heq | ⟨stored, nextStamp, heq⟩
  · exact each_of_routers_eq hrefl (by rw [heq])
  · rw [heq]
    exact each_modifyRouter hrefl { world with nextStamp } fun r => hmoved r stored

/-- When the route of a router is replaced, routers change in nothing but their route. -/
theorem each_replaceRoute {P : Router κ → Router κ → Prop} (hrefl : ∀ r, P r r)
    (hreplaced : ∀ (r : Router κ) (route : Option (Stamped Match)), P r { r with route })
    (world : World κ σ ε) (router : RouterId) (route : Option Match) :
    world.Each P (world.replaceRoute router route) := by
  rcases world.replaceRoute_cases router route with heq | ⟨shown, stored, nextStamp, heq⟩
  · exact each_of_routers_eq hrefl (by rw [heq])
  · have heach : Each P { world with nextStamp }
        ({ world with nextStamp }.modifyRouter router fun r => { r with route := stored }) :=
      each_modifyRouter hrefl _ fun r => hreplaced r stored
    rw [heq]
    exact heach

/-- A session in which a router takes over another location is a later one. -/
theorem later_relocate (world : World κ σ ε) (router : RouterId) : world.Later (world.relocate router) :=
  each_relocate .refl (fun _ _ => ⟨id, .refl _, .refl _⟩) world router

/-- A session in which the route of a router is replaced is a later one. -/
theorem later_replaceRoute (world : World κ σ ε) (router : RouterId) (route : Option Match) :
    world.Later (world.replaceRoute router route) :=
  each_replaceRoute .refl (fun _ _ => ⟨id, .refl _, .refl _⟩) world router route

end World

/-- Minor changes keep the history. -/
theorem Minor.history {world after : World κ σ ε} (hminor : Minor world after) : after.history = world.history := by
  cases hminor with
  | elsewhere hhistory => exact hhistory
  | release router => exact World.history_releaseRouter world router
  | detach router => exact World.history_detach world router
  | _ => rfl

/-- Minor changes keep a session sound. -/
theorem Minor.sound {world after : World κ σ ε} (hminor : Minor world after) (h : world.Sound) :
    after.Sound := by
  cases hminor with
  | elsewhere _ hchanges hrouters hjournal hhandles =>
    exact h.elsewhere hchanges hrouters hhandles fun _ hold => hjournal.symm ▸ hold
  | record => exact h.record _
  | hold router =>
    exact h.modifyRouter fun r _ hsound => ⟨⟨fun _ => Nat.succ_pos _, hsound.locations, hsound.routes⟩, rfl⟩
  | release router => exact h.releaseRouter router
  | detach router => exact h.detach router
  | fail router error | takeError router =>
    exact (h.record _).modifyRouter fun r _ hsound => ⟨⟨hsound.held, hsound.locations, hsound.routes⟩, rfl⟩
  | observeLocations router change hchange =>
    exact h.modifyRouter fun r _ hsound =>
      ⟨⟨hsound.held, hsound.locations.changed (hchange _), hsound.routes⟩, rfl⟩
  | observeRoutes router change hchange =>
    exact h.modifyRouter fun r _ hsound =>
      ⟨⟨hsound.held, hsound.locations, hsound.routes.changed (hchange _)⟩, rfl⟩
  | listen callback => exact h.listen callback
  | unlisten id hhandle => exact h.unlisten hhandle
  | opened router guards nextStamp _ _ hsubscription hholders hlocations hroutes =>
    refine h.opened hsubscription ⟨fun _ => hholders ▸ Nat.one_pos, ?_, ?_⟩
    · exact hlocations ▸ Registry.ordered_empty
    · exact hroutes ▸ Registry.ordered_empty

/-- After a minor change, every router shows what it showed before. -/
theorem Minor.kept {world after : World κ σ ε} (hminor : Minor world after) :
    world.Each Router.Kept after := by
  cases hminor with
  | elsewhere _ _ hrouters => exact World.each_of_routers_eq .refl hrouters
  | record | listen | unlisten => exact World.each_of_routers_eq .refl rfl
  | hold router => exact World.each_modifyRouter .refl world fun _ => ⟨⟨id, .refl _, .refl _⟩, rfl, rfl, rfl⟩
  | fail router error | takeError router =>
    exact World.each_modifyRouter .refl (world.record _) fun _ => ⟨⟨id, .refl _, .refl _⟩, rfl, rfl, rfl⟩
  | release router => exact World.kept_releaseRouter world router
  | detach router => exact World.kept_detach world router
  | observeLocations router change hchange =>
    exact World.each_modifyRouter .refl world fun r => ⟨⟨id, .changed (hchange _), .refl _⟩, rfl, rfl, rfl⟩
  | observeRoutes router change hchange =>
    exact World.each_modifyRouter .refl world fun r => ⟨⟨id, .refl _, .changed (hchange _)⟩, rfl, rfl, rfl⟩
  | opened router guards nextStamp =>
    intro other r hother
    refine ⟨r, ?_, .refl r⟩
    rw [List.getElem?_append_left (List.getElem?_eq_some_iff.1 hother).1]
    exact hother

end PageRouter
