import PageRouter.Proofs.Session.Operations

namespace PageRouter

variable {κ σ ε α β : Type}

namespace Run

section Chaining

/-- A relation that holds across each step of adding and removing blockers. -/
structure Chaining (R : World κ σ ε → World κ σ ε → Prop) : Prop extends Chains R where
  modifyGuard (world : World κ σ ε) (guard : GuardId) {f : Guard κ → Guard κ} (hmends : MendsChain f) :
    R world (world.modifyGuard guard f)
  unloading (world : World κ σ ε) (unload : Registry (UnloadHandler κ)) : R world { world with unload }
  unwound (world : World κ σ ε) (guard : GuardId) : R world (world.record (.unwound guard))

/-- What leads within a relation that chains is composed of parts that do. -/
theorem Chains.composes {R : World κ σ ε → World κ σ ε → Prop} (h : Chains R) : Composes fun _ => Leads R where
  of_pure := within_pure h
  of_get_bind hnext := hnext
  of_bind hfirst hnext := leads_bind h hfirst fun value after hexec _ => hnext value after hexec

/-- Adding and removing blockers is made of steps across which such a relation holds. -/
theorem Chaining.mending {R : World κ σ ε → World κ σ ε → Prop} (h : Chaining R) : Mending fun _ => Leads R where
  toComposes := h.toChains.composes
  modifyGuard guard _ hmends := within_modify fun world => h.modifyGuard world guard hmends
  between guard _ _ hf hg := within_between h.toChains.widens.toSpans (fun world => h.modifyGuard world guard hf)
    fun world => h.modifyGuard world guard hg
  unloading {_} {_} {_} {world} {unload} hexec := by
    rw [Leads, hexec]
    exact fun _ => h.unloading world unload
  noteUnwinding guard := within_noteUnwinding h.toChains fun world => h.unwound world guard

/-- A relation that does not concern the blockers of guards. -/
structure Unguarded (R : World κ σ ε → World κ σ ε → Prop) : Prop extends Chains R where
  guarding (world : World κ σ ε) (guards : List (Guard κ)) (unload : Registry (UnloadHandler κ)) :
    R world { world with guards, unload }
  unwound (world : World κ σ ε) (guard : GuardId) : R world (world.record (.unwound guard))

/-- A relation that does not concern guards holds across whatever happens to them. -/
theorem Unguarded.chaining {R : World κ σ ε → World κ σ ε → Prop} (h : Unguarded R) : Chaining R where
  toChains := h.toChains
  modifyGuard world _ _ _ := h.guarding world _ world.unload
  unloading world unload := h.guarding world world.guards unload
  unwound := h.unwound

end Chaining

/-- What it takes of two relations, the wider of which is to hold across one request. What a request does besides
changing the history and reconciling routers with it is made of slight changes, of callbacks, and of blockers that are
added and removed. -/
structure Steady (R S : World κ σ ε → World κ σ ε → Prop) : Prop extends Widens R S where
  slight {world world' : World κ σ ε} : Slight world world' → R world world'
  addBlocker {host : Host κ σ ε} {invoke : Invoke κ σ ε}
    (hinvoke : ∀ callback told, Within R (invoke callback told)) (guard : GuardId) (callback : κ) :
    Within R (addBlocker host invoke guard callback)
  removeBlocker {host : Host κ σ ε} {invoke : Invoke κ σ ε}
    (hinvoke : ∀ callback told, Within R (invoke callback told)) (guard : GuardId) (id : Nat) :
    Within R (removeBlocker host invoke guard id)

/-- A relation that also holds across slight changes is steady. -/
theorem Chaining.steady {R S : World κ σ ε → World κ σ ε → Prop} (h : Chaining R) (hwidens : Widens R S)
    (hslight : ∀ {world world' : World κ σ ε}, Slight world world' → R world world') : Steady R S :=
  { hwidens with
    slight := hslight
    addBlocker := h.mending.addBlocker
    removeBlocker := h.mending.removeBlocker }

/-- A relation that does not concern guards is steady if it holds across slight changes. -/
theorem Unguarded.steady {R S : World κ σ ε → World κ σ ε → Prop} (h : Unguarded R) (hwidens : Widens R S)
    (hslight : ∀ {world world' : World κ σ ε}, Slight world world' → R world world') : Steady R S :=
  h.chaining.steady hwidens hslight

/-- What it takes of two relations that minor changes do not concern at all. -/
structure Tolerant (R S : World κ σ ε → World κ σ ε → Prop) : Prop extends Widens R S where
  minor {world world' : World κ σ ε} : Minor world world' → R world world'

/-- A minor change in which no router fails to follow the history. -/
structure Abreast (world after : World κ σ ε) : Prop where
  minor : Minor world after
  keepsUp : ∃ events, after.journal = events ++ world.journal ∧ ∀ event ∈ events, event.KeepsUp

private theorem Abreast.record (world : World κ σ ε) {event : Event ε} (hminor : event.IsMinor) :
    Abreast world (world.record event) :=
  ⟨.record world hminor, [event], rfl, by simpa using hminor.keepsUp⟩

/-- What it takes of two relations that no minor changes concern but those in which a router fails to follow the
history. -/
structure Upholding (R S : World κ σ ε → World κ σ ε → Prop) : Prop extends Widens R S where
  abreast {world after : World κ σ ε} : Abreast world after → R world after

namespace Upholding

variable {R S : World κ σ ε → World κ σ ε → Prop} (h : Upholding R S)

include h

/-- A change that routers, observers and the journal do not show is one in which no router fails to follow. -/
theorem elsewhere {world after : World κ σ ε} (hhistory : after.history = world.history)
    (hchanges : after.changes = world.changes) (hrouters : after.routers = world.routers)
    (hjournal : after.journal = world.journal)
    (hhandles : after.handles = world.handles) (hsets : after.sets = world.sets) : R world after := by
  refine h.abreast ⟨.elsewhere hhistory hchanges hrouters hjournal ?_ (.of_handles_eq hsets hhandles), [], hjournal, by simp⟩
  exact fun _ hid => hhandles ▸ hid

private theorem unguarded : Unguarded R where
  toChains := h.toChains
  guarding _ _ _ := h.elsewhere rfl rfl rfl rfl rfl rfl
  unwound _ _ := h.abreast (.record _ trivial)

/-- Slight changes, and those of guards, are such that no router fails to follow in them. -/
theorem steady : Steady R S :=
  h.unguarded.steady h.toWidens fun ⟨hminor, _, events, hjournal, haside⟩ =>
    h.abreast ⟨hminor, events, hjournal, fun event hevent => (haside event hevent).keepsUp⟩

/-- No router fails to follow by the start of a pass. -/
theorem startPass (channel : Channel) : Within R (startPass channel : Run κ σ ε Nat) := by
  refine within_modifyGet fun world => ?_
  have hnumbered : R world { world with nextPass := world.nextPass + 1 } :=
    h.elsewhere rfl rfl rfl rfl rfl rfl
  exact h.trans hnumbered (h.abreast (.record _ trivial))

end Upholding

namespace Tolerant

variable {R S : World κ σ ε → World κ σ ε → Prop} (h : Tolerant R S)

include h

private theorem upholding : Upholding R S :=
  { h with abreast := fun habreast => h.minor habreast.minor }

/-- All that a steady relation asks for are minor changes. -/
theorem steady : Steady R S :=
  h.upholding.steady

/-- Starting a pass is a minor change. -/
theorem startPass (channel : Channel) : Within R (startPass channel : Run κ σ ε Nat) :=
  h.upholding.startPass channel

end Tolerant

section Operations

variable {R S : World κ σ ε → World κ σ ε → Prop} (h : Steady R S)

include h

/-- A pass over anything but the listeners starts with a slight change. -/
theorem within_startPass {channel : Channel} (hother : channel ≠ .changes) :
    Within R (startPass channel : Run κ σ ε Nat) := by
  refine within_modifyGet fun world => ?_
  have hnumbered : R world { world with nextPass := world.nextPass + 1 } :=
    h.slight (.elsewhere rfl rfl rfl rfl (List.Subset.refl _) (.of_handles_eq rfl rfl) (World.guardAt_of_guards_eq rfl) rfl)
  have hkeeps : (Event.passStarted world.nextPass channel : Event ε).KeepsHistory := by
    cases channel <;> first | exact absurd rfl hother | trivial
  exact h.trans hnumbered (h.slight (.record _ trivial hkeeps trivial))

/-- A note that a callback is about to run is slight, unless it is one of the observers of a router. -/
theorem ran_of_isMinor {channel : Channel} (hminor : channel.IsMinor) (pass id : Nat)
    (world : World κ σ ε) : R world (world.record (.ran pass channel id (world.sightAt? channel))) :=
  h.slight (.record world hminor trivial trivial)

/-- A note about a panic that is contained is slight. -/
theorem panicked_of_steady (payload : Payload) (world : World κ σ ε) :
    R world (world.record (.panicked payload)) :=
  h.slight (.record world trivial trivial trivial)

private theorem Steady.noting : Noting fun _ => Leads R where
  toComposes := h.toChains.composes
  startPass := within_startPass h
  recordRan hminor pass id := within_modify (ran_of_isMinor h hminor pass id)
  contain := within_contain h.toChains.widens.toSpans (panicked_of_steady h)

/-- What leads within a steady relation is composed of all parts of requests but those that change what a session
shows. -/
theorem Steady.handling : Handling fun _ => Leads R where
  toComposes := h.toChains.composes
  still {_} {_} {_} {_} {_} hexec hstill := by
    rw [Leads, hexec]
    exact fun _ => h.slight hstill.toSlight
  between hbefore hafter := within_between h.toChains.widens.toSpans (fun world => h.slight (hbefore world).toSlight)
    fun world => h.slight (hafter world).toSlight
  notify hminor hother _ _ := h.noting.notify hminor hother
  askAll hminor hother _ _ := h.noting.askAll hminor hother
  addBlocker := h.addBlocker
  removeBlocker := h.removeBlocker

/-- A request as a whole leads within the wider of the two relations if the parts that change what the session shows
do. -/
theorem Steady.serving : Serving (fun _ => Leads R) fun _ => Leads S where
  toHandling := h.handling
  widen hbody hends := h.widen (hbody hends)
  wide_get_bind hnext := hnext
  before hfirst hnext := leads_bind_of h.widen h.before hfirst fun value after hexec _ => hnext value after hexec
  after hfirst hnext := leads_bind_of id h.after hfirst fun value after hexec _ => hnext value after hexec
  wide_between hbefore hafter := within_between h.toSpans (fun world => h.slight (hbefore world).toSlight)
    fun world => h.slight (hafter world).toSlight

end Operations

section Passes

variable {M : Type} [AddMonoid M] {R : M → World κ σ ε → World κ σ ε → Prop}

/-- A pass over observers amounts to what these amount to, if its start amounts to nothing. -/
theorem within_notify (h : Graded R) {S : World κ σ ε → World κ σ ε → Prop} (hsteady : Steady (R 0) S)
    {channel : Channel} {run : α → Run κ σ ε Unit} {registry : Registry α} (noted : Nat → M) (ran : α → M)
    (hstart : Within (R 0) (startPass channel))
    (hran : ∀ pass id world,
      R (noted id) world (world.record (.ran pass channel id (world.sightAt? channel))))
    (hrun : ∀ observer ∈ registry.entries, Within (R (ran observer.2)) (run observer.2)) :
    Within (R (registry.entries.map fun observer => noted observer.1 + ran observer.2).sum)
      (notify channel run registry) := by
  intro world
  rw [← zero_add (List.sum _)]
  refine leads_bind_calm (calm_modifyGet _) h.add (hstart world) fun pass => ?_
  exact within_runObservers h noted ran (panicked_of_steady hsteady) (hran pass) registry.entries hrun

end Passes

end Run

end PageRouter
