import PageRouter.Proofs.Session.Follow

namespace PageRouter.Run

variable {κ σ ε α β : Type}

/-- A computation keeps a property of sessions, however it ends. A relation between the sessions before and after a
computation says nothing of one that runs out of depth. An invariant does: it is kept by whatever was done up to then,
so it holds wherever a run is cut off, and with that at every moment of a run that does not end at all. -/
def Keeps (I : World κ σ ε → Prop) (body : Run κ σ ε α) : Prop :=
  ∀ world, I world → I (body.exec world).2

/-- A computation that starts in a session keeps a property of it, however it ends. -/
def KeepsFrom (I : World κ σ ε → Prop) (body : Run κ σ ε α) (world : World κ σ ε) : Prop :=
  I world → I (body.exec world).2

section Rules

variable {I P : World κ σ ε → Prop}

/-- What follows a computation need only keep the property where the computation gives a value. -/
theorem of_exec_bind {first : Run κ σ ε α} {next : α → Run κ σ ε β} {world : World κ σ ε}
    (hfirst : I (first.exec world).2)
    (hnext : ∀ value after, first.exec world = (.ok value, after) → I after → I ((next value).exec after).2) :
    I ((first >>= next).exec world).2 := by
  rw [exec_bind]
  rcases hexec : first.exec world with ⟨stop | value, after⟩
  · rwa [hexec] at hfirst
  · rw [hexec] at hfirst
    exact hnext value after hexec hfirst

/-- What keeps a property is composed of parts that do. -/
theorem composes_keeps (I : World κ σ ε → Prop) : Composes fun _ => KeepsFrom I where
  of_pure _ _ hI := hI
  of_get_bind hnext := hnext
  of_bind hfirst hnext hI := of_exec_bind (hfirst hI) hnext

/-- A panic that is contained adds a note about it, which has to keep the property too. -/
theorem keeps_contain (hpanicked : ∀ payload world, I world → I (world.record (.panicked payload)))
    {body : Run κ σ ε Unit} (hbody : Keeps I body) : Keeps I (contain body) := by
  intro world h
  have hended := hbody world h
  rw [exec_contain]
  rcases hexec : body.exec world with ⟨stop | value, after⟩
  · rw [hexec] at hended
    cases stop with
    | panic payload => exact hpanicked payload after hended
    | exhausted => exact hended
  · rwa [hexec] at hended

/-- A panic that goes on adds a note about it as well. -/
theorem keeps_noteUnwinding {guard : GuardId} (hunwound : ∀ world, I world → I (world.record (.unwound guard)))
    {body : Run κ σ ε Unit} (hbody : Keeps I body) : Keeps I (noteUnwinding guard body) := by
  intro world h
  have hended := hbody world h
  rw [exec_noteUnwinding]
  rcases hexec : body.exec world with ⟨stop | value, after⟩
  · rw [hexec] at hended
    cases stop with
    | panic payload => exact hunwound after hended
    | exhausted => exact hended
  · rwa [hexec] at hended

/-- Running an observer may depend on what is true when a pass starts and again after each observer that ends. -/
theorem exec_runObservers_of {pass : Nat} {channel : Channel} {run : α → Run κ σ ε Unit}
    (hpanicked : ∀ payload world, I world → I (world.record (.panicked payload)))
    (hran : ∀ id world, P world → I world → P (world.record (.ran pass channel id (world.sightAt? channel))) ∧
      I (world.record (.ran pass channel id (world.sightAt? channel))))
    (hends : ∀ observer, Within (fun world after => P world → P after) (contain (run observer)))
    (hrun : ∀ observer, Keeps I (run observer)) (observers : List (Nat × α)) {world : World κ σ ε}
    (hP : P world) (hI : I world) : I ((runObservers pass channel run observers).exec world).2 := by
  induction observers generalizing world with
  | nil => exact hI
  | cons first more ih =>
    obtain ⟨id, observer⟩ := first
    obtain ⟨hP, hI⟩ := hran id world hP hI
    refine of_exec_bind (I := I) hI fun _ _ hnoted _ => ?_
    cases hnoted
    refine of_exec_bind (keeps_contain hpanicked (hrun observer) _ hI) fun _ after hexec hafter => ?_
    -- Only an observer that is cut off does not bring about again what the next one depends on.
    have hended := hends observer (world.record (.ran pass channel id (world.sightAt? channel)))
    rw [Leads, hexec] at hended
    exact ih (hended (by simp) hP) hafter

end Rules

/-- A property of sessions that minor changes do not take away. -/
structure Robust (I : World κ σ ε → Prop) : Prop where
  minor {world after : World κ σ ε} : Minor world after → I world → I after

namespace Robust

variable {I : World κ σ ε → Prop} (h : Robust I)

include h

private theorem elsewhere {world after : World κ σ ε} (hI : I world) (hhistory : after.history = world.history)
    (hchanges : after.changes = world.changes) (hrouters : after.routers = world.routers)
    (hjournal : after.journal = world.journal)
    (hhandles : after.handles = world.handles) (hsets : after.sets = world.sets) : I after :=
  h.minor (.elsewhere hhistory hchanges hrouters hjournal (fun _ hid => hhandles ▸ hid)
    (.of_handles_eq hsets hhandles)) hI

/-- A note about a contained panic takes no robust property away. -/
theorem panicked (payload : Payload) (world : World κ σ ε) (hI : I world) : I (world.record (.panicked payload)) :=
  h.minor (.record world trivial) hI

/-- Starting a pass is a minor change. -/
theorem startPass (channel : Channel) : Keeps I (startPass channel : Run κ σ ε Nat) := by
  intro world hI
  have hnumbered : I { world with nextPass := world.nextPass + 1 } :=
    h.elsewhere hI rfl rfl rfl rfl rfl rfl
  exact h.minor (.record _ trivial) hnumbered

/-- Whatever happens to a guard is a minor change. -/
theorem modifyGuard (guard : GuardId) (f : Guard κ → Guard κ) (world : World κ σ ε) (hI : I world) :
    I (world.modifyGuard guard f) :=
  h.elsewhere hI rfl rfl rfl rfl rfl rfl

private theorem mending : Mending fun _ => KeepsFrom I where
  toComposes := composes_keeps I
  modifyGuard guard _ _ := h.modifyGuard guard _
  between guard _ _ _ _ _ _ hbody world hI := h.modifyGuard guard _ _ (hbody _ (h.modifyGuard guard _ world hI))
  unloading {_} {_} {_} {_} {_} hexec hI := by
    rw [hexec]
    exact h.elsewhere hI rfl rfl rfl rfl rfl rfl
  noteUnwinding _ := keeps_noteUnwinding fun world => h.minor (.record world trivial)

private theorem noting : Noting fun _ => KeepsFrom I where
  toComposes := composes_keeps I
  startPass _ := h.startPass _
  recordRan hminor _ _ world := h.minor (.record world hminor)
  contain := keeps_contain h.panicked

private theorem handling : Handling fun _ => KeepsFrom I where
  toComposes := composes_keeps I
  still {_} {_} {_} {_} {_} hexec hstill hI := by
    rw [hexec]
    exact h.minor hstill.minor hI
  between hbefore hafter _ _ hbody world hI :=
    h.minor (hafter _).minor (hbody _ (h.minor (hbefore world).minor hI))
  notify hminor hother _ _ := h.noting.notify hminor hother
  askAll hminor hother _ _ := h.noting.askAll hminor hother
  addBlocker := h.mending.addBlocker
  removeBlocker := h.mending.removeBlocker

private theorem playing : Playing fun _ => KeepsFrom I where
  toHandling := h.handling
  of_throw _ _ hI := hI
  of_look world := h.minor (.record world trivial)

/-- A pass keeps a robust property if the notes about its callbacks and these themselves do. -/
theorem notify {channel : Channel} {run : α → Run κ σ ε Unit}
    (hran : ∀ pass id world, I world → I (world.record (.ran pass channel id (world.sightAt? channel))))
    (hrun : ∀ observer, Keeps I (run observer)) (registry : Registry α) : Keeps I (notify channel run registry) := by
  refine (composes_keeps I).bind (h.startPass channel) fun pass world hI => ?_
  exact exec_runObservers_of (P := fun _ => True) h.panicked (fun id world _ hI => ⟨trivial, hran pass id world hI⟩)
    (fun _ _ _ _ => trivial) hrun registry.entries trivial hI

variable {invoke : Invoke κ σ ε}

/-- A router that follows a change keeps a robust property if its reconciliation does, since the error that it keeps
is a minor change. -/
theorem follow {router : RouterId} (hsync : Keeps I (sync invoke router)) : Keeps I (follow invoke router) := by
  refine (composes_keeps I).get_bind fun world => ?_
  split
  · refine h.handling.holdingRouter router ((composes_keeps I).bind hsync fun result => ?_)
    split
    · exact (composes_keeps I).always_pure ()
    · next error => exact fun world => h.minor (.fail world router error)
  · exact (composes_keeps I).always_pure ()

/-- A change is announced to callbacks, and to routers that reconcile themselves. -/
theorem announce (hinvoke : ∀ callback told, Keeps I (invoke callback told))
    (hsync : ∀ router, Keeps I (sync invoke router)) {world : World κ σ ε} {history : History}
    (hchanged : I ({ world with history }.record (.changed history.current))) :
    I ((announce invoke history).exec world).2 := by
  have hhear (listener : Listener κ) : Keeps I (hear invoke listener) := by
    cases listener with
    | host callback => exact (composes_keeps I).perform (hinvoke callback false)
    | router router => exact h.follow (hsync router)
  have hran (pass id : Nat) (world : World κ σ ε) (hI : I world) :
      I (world.record (.ran pass .changes id (world.sightAt? .changes))) :=
    h.minor (.record world trivial) hI
  exact h.notify hran hhear world.changes _ hchanged

end Robust

/-- A property of sessions that announcements and reconciliations keep if the callbacks in them do. Those that end
can be relied on for what holds across them. -/
structure Enduring (R : World κ σ ε → World κ σ ε → Prop) (I : World κ σ ε → Prop) : Prop
    extends Robust I where
  announce {invoke : Invoke κ σ ε} (hwithin : ∀ callback told, Within R (invoke callback told))
    (hinvoke : ∀ callback told, Keeps I (invoke callback told)) {world : World κ σ ε} {history : History}
    (hnext : world.history.Next history) (hI : I world) : I ((announce invoke history).exec world).2
  sync {invoke : Invoke κ σ ε} (hwithin : ∀ callback told, Within R (invoke callback told))
    (hinvoke : ∀ callback told, Keeps I (invoke callback told)) (router : RouterId) :
    Keeps I (do record (.syncAsked router); sync invoke router)

namespace Enduring

variable {R : World κ σ ε → World κ σ ε → Prop} {I : World κ σ ε → Prop} (h : Enduring R I) {host : Host κ σ ε}

include h

/-- A request keeps an enduring property if the callbacks in it do. -/
theorem fulfil {invoke : Invoke κ σ ε} (hwithin : ∀ callback told, Within R (invoke callback told))
    (hinvoke : ∀ callback told, Keeps I (invoke callback told)) {reply : Reply} (request : Request κ reply) :
    Keeps I (fulfil host invoke request) :=
  h.handling.serving.fulfil hinvoke (fun _ _ => h.announce hwithin hinvoke) (h.sync hwithin hinvoke) request

/-- An enduring property holds wherever a run is cut off, if it does at the start. -/
theorem run (hwithin : ∀ depth callback told, Within R (invoke host depth callback told)) (depth : Nat)
    (program : Program κ σ ε α) {world : World κ σ ε} (hI : I world) : I (program.run host depth world).2 := by
  have hinvoke : ∀ callback told, Keeps I (invoke host depth callback told) :=
    h.playing.invoke (fun depth => h.fulfil (hwithin depth)) depth
  exact h.playing.execute (h.fulfil (hwithin depth) hinvoke) program world hI

end Enduring

/-- A property of sessions that none of the steps of an announcement or of a reconciliation takes away. -/
structure Abiding (I : World κ σ ε → Prop) : Prop extends Robust I where
  record {world : World κ σ ε} (hI : I world) (event : Event ε) : I (world.record event)
  travel {world : World κ σ ε} (hI : I world) (history : History) : I { world with history }
  relocate {world : World κ σ ε} (hI : I world) (router : RouterId) : I (world.relocate router)
  replaceRoute {world : World κ σ ε} (hI : I world) (router : RouterId) (route : Option Match) :
    I (world.replaceRoute router route)

namespace Abiding

variable {I : World κ σ ε → Prop} (h : Abiding I) {invoke : Invoke κ σ ε}

include h

section Reconciling

variable (hinvoke : ∀ callback told, Keeps I (invoke callback told))

include hinvoke

/-- Telling the observers of a router is a pass whose notes are steps. -/
theorem tell (channel : RouterId → Channel) (observers : Router κ → Registry κ) (router : RouterId) :
    Keeps I (tell invoke channel observers router) := by
  refine (composes_keeps I).get_bind fun world => ?_
  split
  · exact (composes_keeps I).always_pure ()
  · exact h.notify (fun _ _ _ hI => h.record hI _) (fun observer => (composes_keeps I).perform (hinvoke observer false)) _

/-- Resolving the location of a router again replaces its route or notes a tie. -/
theorem rematch (router : RouterId) : Keeps I (rematch invoke router) := by
  refine (composes_keeps I).get_bind fun world => ?_
  split
  · exact (composes_keeps I).always_pure _
  · refine (composes_keeps I).bind (h.handling.resolve _ _) fun result => ?_
    split
    · exact (composes_keeps I).always_pure _
    · next route =>
      split
      · refine (composes_keeps I).bind (fun world hI => h.replaceRoute hI router route) fun _ => ?_
        exact (composes_keeps I).bind (h.tell hinvoke .routes (·.routeObservers) router) fun _ =>
          (composes_keeps I).always_pure _
      · exact (composes_keeps I).always_pure _

private theorem sync (router : RouterId) : Keeps I (sync invoke router) := by
  refine (composes_keeps I).bind (fun world hI => h.relocate hI router) fun _ => ?_
  exact (composes_keeps I).bind (h.tell hinvoke .locations (·.locationObservers) router) fun _ =>
    h.rematch hinvoke router

end Reconciling

/-- What is kept by each step of announcements and reconciliations is kept by these. -/
theorem enduring : Enduring (fun _ _ => True) I where
  toRobust := h.toRobust
  announce {_} _ hinvoke {_} {history} _ hI :=
    h.toRobust.announce hinvoke (h.sync hinvoke) (h.record (h.travel hI history) _)
  sync _ hinvoke router :=
    (composes_keeps I).bind (fun _ hI => h.record hI _) fun _ => h.sync hinvoke router

/-- An abiding property holds wherever a run is cut off, if it does at the start. -/
theorem run (host : Host κ σ ε) (depth : Nat) (program : Program κ σ ε α) {world : World κ σ ε} (hI : I world) :
    I (program.run host depth world).2 :=
  h.enduring.run (fun _ _ _ _ _ => trivial) depth program hI

end Abiding

end PageRouter.Run
