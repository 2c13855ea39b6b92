import PageRouter.Proofs.Session.Unload

namespace PageRouter

variable {κ σ ε α : Type}

namespace World

/-- A guard says that its unload handler is being registered, and knows of none. A blocker is in its chain, and its
guard on the way to be attached, before the source is asked to register the handler; a panic of the source goes past
what would have concluded that. -/
def Stalled (world : World κ σ ε) (guard : GuardId) : Prop :=
  (world.guardAt guard).attaching = true ∧ (world.guardAt guard).unload = none

/-- Only a guard that is there can be stalled. -/
theorem Stalled.exists_guard {world : World κ σ ε} {guard : GuardId} (h : world.Stalled guard) :
    ∃ g, world.guards[guard]? = some g ∧ g.attaching = true ∧ g.unload = none := by
  rcases hguard : world.guards[guard]? with _ | g
  · rw [Stalled, guardAt, hguard] at h
    exact absurd h.1 Bool.false_ne_true
  · rw [Stalled, guardAt_of_some hguard] at h
    exact ⟨g, rfl, h⟩

/-- A session in which a blocker was put into the chain of a guard, the handler of which is to be registered. -/
def enlist (world : World κ σ ε) (guard : GuardId) (callback : κ) : World κ σ ε :=
  world.modifyGuard guard fun g =>
    { g with changing := g.changing + 1, blockers := g.blockers.subscribe callback, attaching := true }

end World

namespace Run

/-- A guard that is stalled remains so, and no handler of it is registered. -/
def Stalls (guard : GuardId) (world after : World κ σ ε) : Prop :=
  world.Stalled guard → after.Stalled guard ∧ ∀ id, after.IsHandler guard id → world.IsHandler guard id

/-- A guard that is stalled remains so, whatever becomes of its handlers. -/
def StaysStalled (guard : GuardId) (world after : World κ σ ε) : Prop :=
  world.Stalled guard → after.Stalled guard

section Steps

variable {guard : GuardId}

private theorem chains_staysStalled (guard : GuardId) :
    Chains (StaysStalled guard : World κ σ ε → World κ σ ε → Prop) where
  refl _ hstalled := hstalled
  trans hfirst hsecond hstalled := hsecond (hfirst hstalled)

private theorem chains_stalls (guard : GuardId) : Chains (Stalls guard : World κ σ ε → World κ σ ε → Prop) where
  refl _ hstalled := ⟨hstalled, fun _ hid => hid⟩
  trans hfirst hsecond hstalled := by
    obtain ⟨hmiddle, hearlier⟩ := hfirst hstalled
    obtain ⟨hafter, hlater⟩ := hsecond hmiddle
    exact ⟨hafter, fun id hid => hearlier id (hlater id hid)⟩

/-- The host only registers handlers of its own. -/
theorem stalls_of_keepsGuards {world after : World κ σ ε} (hkeeps : KeepsGuards world after) :
    Stalls guard world after := by
  refine fun hstalled => ⟨by rwa [World.Stalled, hkeeps.guardAt guard], fun id hid => ?_⟩
  cases hkeeps.unload with
  | same hunload _ => exact (World.isHandler_of_unload_eq hunload guard id).1 hid
  | listen callback hunload _ =>
    rw [World.IsHandler, hunload, Registry.mem_subscribe] at hid
    exact hid.resolve_right (by simp)
  | unlisten other _ hunload _ =>
    rw [World.IsHandler, hunload, Registry.mem_unsubscribe] at hid
    exact hid.1

/-- A guard that is changed but not attached is stalled if it was. -/
theorem stalls_modifyGuard (world : World κ σ ε) (acting : GuardId) {f : Guard κ → Guard κ}
    (hf : acting = guard → ∀ g, g.attaching = true → g.unload = none → (f g).attaching = true ∧ (f g).unload = none) :
    Stalls guard world (world.modifyGuard acting f) := by
  refine fun hstalled => ⟨?_, fun _ hid => hid⟩
  by_cases hsame : acting = guard
  · obtain ⟨g, hguard, hattaching, hunload⟩ := hstalled.exists_guard
    rw [World.Stalled, hsame, World.guardAt_modifyGuard_self world f hguard]
    exact hf hsame g hattaching hunload
  · rwa [World.Stalled, World.guardAt_modifyGuard_of_ne world f hsame]

private theorem stalls_unsubscribe (world : World κ σ ε) (registration : Nat) :
    Stalls guard world { world with unload := world.unload.unsubscribe registration } :=
  fun hstalled => ⟨hstalled, fun _ hid => (Registry.mem_unsubscribe.1 hid).1⟩

private theorem stalls_subscribe {acting : GuardId} (hother : acting ≠ guard) (world : World κ σ ε) :
    Stalls guard world { world with unload := world.unload.subscribe (.guard acting) } :=
  fun hstalled => ⟨hstalled, fun id hid => (Registry.mem_subscribe.1 hid).resolve_right (by simp [hother.symm])⟩

end Steps

section Blockers

variable {guard : GuardId} {host : Host κ σ ε} {invoke : Invoke κ σ ε}

/-- Adding a blocker is to put it into the chain, and then to have the handler of the guard registered if that is due. -/
theorem exec_addBlocker {world : World κ σ ε} {g : Guard κ} (hguard : world.guards[guard]? = some g) {attach : Bool}
    (hattach : (g.unload.isNone && !g.attaching) = attach) (callback : κ) :
    (addBlocker host invoke guard callback).exec world =
      (changingGuard guard do
        modify (·.modifyGuard guard fun g =>
          { g with blockers := g.blockers.subscribe callback, attaching := g.attaching || attach })
        if attach then attachUnload host invoke guard
        return ⟨.blockers guard, g.blockers.nextId⟩).exec world := by
  have hentered : (world.modifyGuard guard fun g => { g with changing := g.changing + 1 }).guards[guard]? =
      some { g with changing := g.changing + 1 } := by
    rw [World.getElem?_modifyGuard, hguard]
    rfl
  rw [addBlocker, changingGuard, exec_between, exec_get_bind, hentered]
  dsimp only
  rw [hattach]
  rfl

/-- A blocker of a stalled guard is put into the chain, and that is all. -/
theorem exec_addBlocker_of_stalled {world : World κ σ ε} {g : Guard κ} (hguard : world.guards[guard]? = some g)
    (hattaching : g.attaching = true) (callback : κ) :
    (addBlocker host invoke guard callback).exec world = (.ok ⟨.blockers guard, g.blockers.nextId⟩,
      world.modifyGuard guard fun g => { g with blockers := g.blockers.subscribe callback }) := by
  have hattach : (g.unload.isNone && !g.attaching) = false := by rw [hattaching, Bool.not_true, Bool.and_false]
  rw [exec_addBlocker hguard hattach, changingGuard, exec_between, exec_bind_ok (exec_modify _ _)]
  simp only [Bool.false_eq_true, if_false, exec_pure, World.modifyGuard_modifyGuard, Function.comp_def, Bool.or_false,
    Nat.add_sub_cancel]

variable (hinvoke : ∀ callback told, Within (Stalls guard) (invoke callback told))

include hinvoke

private theorem stalls_performHook (acting : GuardId) (hook : Option κ) :
    Within (Stalls guard) (performHook invoke acting hook) := by
  cases hook with
  | none => exact within_pure (chains_stalls guard) ()
  | some callback =>
    exact within_noteUnwinding (chains_stalls guard) (fun world => stalls_of_keepsGuards (.of_eq rfl rfl rfl))
      (within_perform (chains_stalls guard) (hinvoke callback false))

private theorem stalls_detachUnload (acting : GuardId) (registration : Nat) :
    Within (Stalls guard) (detachUnload host invoke acting registration) := by
  have hchains := chains_stalls (κ := κ) (σ := σ) (ε := ε) guard
  refine within_bind hchains (stalls_performHook hinvoke acting host.beforeDetach) fun _ => ?_
  refine within_bind hchains (within_modify fun world => stalls_unsubscribe world registration) fun _ => ?_
  exact stalls_performHook hinvoke acting host.afterDetach

private theorem stalls_attachUnload {acting : GuardId} (hother : acting ≠ guard) :
    Within (Stalls guard) (attachUnload host invoke acting) := by
  have hchains := chains_stalls (κ := κ) (σ := σ) (ε := ε) guard
  have hupdate (world : World κ σ ε) (f : Guard κ → Guard κ) : Stalls guard world (world.modifyGuard acting f) :=
    stalls_modifyGuard world acting fun hsame => absurd hsame hother
  refine within_bind hchains (stalls_performHook hinvoke acting host.beforeAttach) fun _ => ?_
  refine within_bind hchains (within_modifyGet fun world => stalls_subscribe hother world) fun registration => ?_
  refine within_bind hchains (stalls_performHook hinvoke acting host.afterAttach) fun _ => ?_
  refine within_bind hchains (within_modify fun world => hupdate world _) fun _ => within_get_bind fun world => ?_
  split
  · exact stalls_detachUnload hinvoke acting registration
  · exact within_modify fun world => hupdate world _

/-- A blocker of a stalled guard is not attached, and other guards have handlers of their own. -/
theorem stalls_addBlocker (acting : GuardId) (callback : κ) :
    Within (Stalls guard) (addBlocker host invoke acting callback) := by
  have hchains := chains_stalls (κ := κ) (σ := σ) (ε := ε) guard
  by_cases hother : acting = guard
  · subst hother
    intro world _ hstalled
    obtain ⟨g, hguard, hattaching, -⟩ := hstalled.exists_guard
    rw [exec_addBlocker_of_stalled hguard hattaching]
    exact stalls_modifyGuard world acting (fun _ _ hattaching hunload => ⟨hattaching, hunload⟩) hstalled
  · have hupdate (world : World κ σ ε) (f : Guard κ → Guard κ) : Stalls guard world (world.modifyGuard acting f) :=
      stalls_modifyGuard world acting fun hsame => absurd hsame hother
    refine within_between hchains.widens.toSpans (fun world => hupdate world _) (fun world => hupdate world _)
      (within_get_bind fun world => ?_)
    split
    · exact within_pure hchains _
    · refine within_bind hchains (within_modify fun world => hupdate world _) fun _ => ?_
      split
      · exact within_bind hchains (stalls_attachUnload hinvoke hother) fun _ => within_pure hchains _
      · exact within_pure hchains _

/-- A guard that knows of no handler has none removed. -/
theorem stalls_removeBlocker (acting : GuardId) (id : Nat) :
    Within (Stalls guard) (removeBlocker host invoke acting id) := by
  have hchains := chains_stalls (κ := κ) (σ := σ) (ε := ε) guard
  have hupdate (world : World κ σ ε) {f : Guard κ → Guard κ}
      (hf : ∀ g, g.attaching = true → g.unload = none → (f g).attaching = true ∧ (f g).unload = none) :
      Stalls guard world (world.modifyGuard acting f) :=
    stalls_modifyGuard world acting fun _ => hf
  refine within_get_bind fun world => ?_
  split
  · refine within_between hchains.widens.toSpans (fun world => hupdate world fun _ h h' => ⟨h, h'⟩)
      (fun world => hupdate world fun _ h h' => ⟨h, h'⟩) ?_
    refine within_between hchains.widens.toSpans (fun world => hupdate world fun _ h h' => ⟨h, h'⟩)
      (fun world => hupdate world fun _ h h' => ⟨h, h'⟩) ?_
    refine within_bind hchains (within_modify fun world => hupdate world fun _ h h' => ⟨h, h'⟩) fun _ => ?_
    refine within_get_bind fun world => ?_
    split
    · exact within_pure hchains ()
    · split
      · refine within_bind hchains (within_modify fun world => hupdate world fun _ h _ => ⟨h, rfl⟩) fun _ => ?_
        split
        · exact within_pure hchains ()
        · exact stalls_detachUnload hinvoke acting _
      · exact within_pure hchains ()
  · exact within_pure hchains ()

end Blockers

/-- Whatever happens at once, a guard that is stalled remains so. -/
theorem stepwise_stalls (guard : GuardId) : Stepwise (Stalls guard : World κ σ ε → World κ σ ε → Prop) where
  toWidens := (chains_stalls guard).widens
  slight hslight := stalls_of_keepsGuards hslight.guards
  addBlocker {_ _} hinvoke := stalls_addBlocker hinvoke
  removeBlocker {_ _} hinvoke := stalls_removeBlocker hinvoke
  look world := stalls_of_keepsGuards (.of_eq rfl rfl rfl)
  step world _ _ := stalls_of_keepsGuards (.of_eq rfl rfl rfl)
  relocate world router := stalls_of_keepsGuards (world.relocate_keepsGuards router).1
  replaceRoute {world router r route} hrouter _ := by
    rw [World.replaceRoute, hrouter]
    exact stalls_of_keepsGuards (.of_eq rfl rfl rfl)
  fail _ _ := stalls_of_keepsGuards (.of_eq rfl rfl rfl)
  startPass := within_modifyGet fun world => stalls_of_keepsGuards (.of_eq rfl rfl rfl)
  changed world history := stalls_of_keepsGuards (.of_eq rfl rfl rfl)

/-- What the source does until it hands out the registration of a guard's unload handler. -/
def register (host : Host κ σ ε) (invoke : Invoke κ σ ε) (guard : GuardId) : Run κ σ ε Nat := do
  performHook invoke guard host.beforeAttach
  let registration ← subscribeUnload (.guard guard)
  performHook invoke guard host.afterAttach
  return registration

/-- What is done with the registration then: it is kept, or given back if no blocker is left. -/
def conclude (host : Host κ σ ε) (invoke : Invoke κ σ ε) (guard : GuardId) (registration : Nat) : Run κ σ ε Unit := do
  modify (·.modifyGuard guard fun g => { g with attaching := false })
  if (← get).guards[guard]?.all (·.blockers.isEmpty) then detachUnload host invoke guard registration
  else modify (·.modifyGuard guard fun g => { g with unload := some registration })

private theorem attachUnload_eq (host : Host κ σ ε) (invoke : Invoke κ σ ε) (guard : GuardId) :
    attachUnload host invoke guard = register host invoke guard >>= conclude host invoke guard := by
  simp only [attachUnload, register, conclude, bind_assoc, pure_bind]

section Failing

variable {host : Host κ σ ε} {invoke : Invoke κ σ ε} {guard : GuardId} {world middle : World κ σ ε} {payload : Payload}

/-- A panic of the source ends the addition of a blocker, which is taken back only as far as it is counted. -/
theorem exec_addBlocker_of_panic {g : Guard κ} (hguard : world.guards[guard]? = some g) (hunload : g.unload = none)
    (hattaching : g.attaching = false) {callback : κ}
    (hpanic : (register host invoke guard).exec (world.enlist guard callback) = (.error (.panic payload), middle)) :
    (addBlocker host invoke guard callback).exec world =
      (.error (.panic payload), middle.modifyGuard guard fun g => { g with changing := g.changing - 1 }) := by
  have hattach : (g.unload.isNone && !g.attaching) = true := by
    rw [hunload, hattaching]
    rfl
  have henlisted : (world.modifyGuard guard fun g => { g with changing := g.changing + 1 }).modifyGuard guard (fun g =>
      { g with blockers := g.blockers.subscribe callback, attaching := g.attaching || true }) =
        world.enlist guard callback := by
    simp only [World.modifyGuard_modifyGuard, World.enlist, Function.comp_def, Bool.or_true]
  rw [exec_addBlocker hguard hattach, changingGuard, exec_between, exec_bind_ok (exec_modify _ _), henlisted, if_pos rfl,
    attachUnload_eq, bind_assoc, exec_bind, hpanic]

/-- Whatever a source does about a guard that is to be attached, the guard stays stalled. -/
theorem stalled_of_register (hinvoke : ∀ callback told, Within (Stalls guard) (invoke callback told))
    (hends : ((register host invoke guard).exec world).1 ≠ .error .exhausted) (hstalled : world.Stalled guard) :
    ((register host invoke guard).exec world).2.Stalled guard := by
  have hchains := chains_staysStalled (κ := κ) (σ := σ) (ε := ε) guard
  have hhook (hook : Option κ) : Within (StaysStalled guard) (performHook invoke guard hook) :=
    within_mono (fun hstalls hstalled => (hstalls hstalled).1) (stalls_performHook hinvoke guard hook)
  have hregister : Within (StaysStalled guard) (register host invoke guard) := by
    refine within_bind hchains (hhook host.beforeAttach) fun _ => ?_
    refine within_bind hchains (within_modifyGet fun _ h => h) fun registration => ?_
    exact within_bind hchains (hhook host.afterAttach) fun _ => within_pure hchains registration
  exact hregister world hends hstalled

/-- A source that does nothing after it has registered a handler can only fail before. -/
theorem isHandler_of_register_panics (hinvoke : ∀ callback told, Within (Stalls guard) (invoke callback told))
    (hpanic : (register host invoke guard).exec world = (.error (.panic payload), middle)) (hstalled : world.Stalled guard)
    (hafter : host.afterAttach = none) {id : Nat} (hid : middle.IsHandler guard id) : world.IsHandler guard id := by
  have hhook := stalls_performHook hinvoke guard host.beforeAttach world
  rw [Leads] at hhook
  rw [register, hafter, exec_bind] at hpanic
  -- With no hook behind the registration, the panic is that of the hook in front of it.
  rcases hexec : (performHook invoke guard host.beforeAttach).exec world with ⟨stop | value, failed⟩
  · rw [hexec] at hpanic hhook
    obtain ⟨hstop, rfl⟩ := Prod.mk.inj hpanic
    exact (hhook (by simp [Except.error.inj hstop]) hstalled).2 id hid
  · rw [hexec] at hpanic
    cases hpanic

end Failing

end Run

/-- Sessions that a host can get to from a certain one, by programs one after the other. -/
inductive Continued (host : Host κ σ ε) (world : World κ σ ε) : World κ σ ε → Prop
  | here : Continued host world world
  | run {later : World κ σ ε} {α : Type} (hlater : Continued host world later) (depth : Nat)
      (program : Program κ σ ε α) (hends : (program.run host depth later).1 ≠ .error .exhausted) :
      Continued host world (program.run host depth later).2

/-- What lasts through every run lasts through all of them. -/
theorem Continued.lasting {R : World κ σ ε → World κ σ ε → Prop} (hlasting : Run.Lasting R) {host : Host κ σ ε}
    {world later : World κ σ ε} (h : Continued host world later) : R world later := by
  induction h with
  | here => exact hlasting.refl world
  | run _ depth program hends ih => exact hlasting.trans ih (hlasting.run host depth program hends)

/-- When the source panics while it registers the unload handler of a guard, adding the blocker that this was for
panics, but the chain is left as the source left it, with that blocker in it unless the source took it out. The guard
is stalled, and it remains so in all sessions to come, in which none of its handlers is registered any more: further
blockers are put into the chain, and nothing is asked of the source. -/
theorem World.stalled_of_failed_attachment {host : Host κ σ ε} {depth : Nat} {world middle : World κ σ ε}
    {guard : GuardId} {g : Guard κ} (hguard : world.guards[guard]? = some g) (hunload : g.unload = none)
    (hattaching : g.attaching = false) {callback : κ} {payload : Payload}
    (hpanic : (Run.register host (Run.invoke host depth) guard).exec (world.enlist guard callback) =
      (.error (.panic payload), middle)) :
    ∃ after, (Run.addBlocker host (Run.invoke host depth) guard callback).exec world = (.error (.panic payload), after) ∧
      after = middle.modifyGuard guard (fun g => { g with changing := g.changing - 1 }) ∧
      (after.guardAt guard).blockers = (middle.guardAt guard).blockers ∧
      after.Stalled guard ∧
      (host.afterAttach = none → ∀ id, after.IsHandler guard id → world.IsHandler guard id) ∧
      ∀ later, Continued host after later →
        later.Stalled guard ∧
        (∀ id, later.IsHandler guard id → after.IsHandler guard id) ∧
        ∃ g', later.guards[guard]? = some g' ∧
          ∀ depth' callback', (Run.addBlocker host (Run.invoke host depth') guard callback').exec later =
            (.ok ⟨.blockers guard, g'.blockers.nextId⟩,
              later.modifyGuard guard fun g => { g with blockers := g.blockers.subscribe callback' }) := by
  have hlasting := (Run.stepwise_stalls (κ := κ) (σ := σ) (ε := ε) guard).lasting
  -- The guard is marked as attaching when the blocker is put in. The panic takes back what counts the changes under
  -- way, but not that mark.
  have henlisted : (world.enlist guard callback).Stalled guard := by
    rw [Stalled, enlist, guardAt_modifyGuard_self world _ hguard]
    exact ⟨rfl, hunload⟩
  have hinvoke := Run.within_invoke hlasting host depth
  have hmiddle : middle.Stalled guard := by
    have hregister := Run.stalled_of_register hinvoke (by rw [hpanic]; simp) henlisted
    rwa [hpanic] at hregister
  obtain ⟨left, hleft, hattaching', hunload'⟩ := hmiddle.exists_guard
  have hafter : (middle.modifyGuard guard fun g => { g with changing := g.changing - 1 }).guardAt guard =
      Guard.unheld { left with changing := left.changing - 1 } := guardAt_modifyGuard_self middle _ hleft
  have hstalled : (middle.modifyGuard guard fun g => { g with changing := g.changing - 1 }).Stalled guard := by
    rw [Stalled, hafter]
    exact ⟨hattaching', hunload'⟩
  refine ⟨_, Run.exec_addBlocker_of_panic hguard hunload hattaching hpanic, rfl, ?_, hstalled, ?_, ?_⟩
  · rw [hafter, guardAt_of_some hleft]
    rfl
  · exact fun hnone id hid => Run.isHandler_of_register_panics hinvoke hpanic henlisted hnone hid
  · intro later hlater
    obtain ⟨hlaterStalled, hhandlers⟩ := hlater.lasting hlasting hstalled
    obtain ⟨g', hguard', hattaching'', -⟩ := hlaterStalled.exists_guard
    exact ⟨hlaterStalled, hhandlers, g', hguard',
      fun depth' callback' => Run.exec_addBlocker_of_stalled hguard' hattaching'' callback'⟩

/-- The callback of a source that registers a handler, and blockers that have no objection. -/
inductive Usher where
  | registering
  | passing
  deriving DecidableEq

/-- The source fails to register a handler the first time, after it has added a blocker itself. -/
def jammedHost : Host Usher Bool Unit where
  respond
    | .registering, _ => .inspect fun world =>
      if world.memory then .done false
      else .remember (fun _ => true) (.ask (.subscribe (.blockers 0) .passing) fun _ => .panic .value)
    | .passing, _ => .done false
  refusal _ := none
  beforeAttach := some .registering

/-- A session with a guard that has no blockers. -/
def jammedStart : World Usher Bool Unit where
  history := .single ⟨"o", "a", "a", "", ""⟩
  guards := [{}]
  memory := false

/-- The session in which the source has failed. -/
def jammedSession : World Usher Bool Unit :=
  ((Run.register jammedHost (Run.invoke jammedHost 2) 0).exec (jammedStart.enlist 0 .passing)).2

def addPassing : Program Usher Bool Unit Subscription :=
  .request (.subscribe (.blockers 0) .passing)

/-- The blocker that the source added itself is there as well. -/
theorem stalled_jammedSession : ∃ after,
    (Run.addBlocker jammedHost (Run.invoke jammedHost 2) 0 .passing).exec jammedStart =
      (.error (.panic .value), after) ∧
    after.standings = [⟨2, false, true, 0, 0⟩] ∧
    ((addPassing.run jammedHost 2 after).2).Stalled 0 := by
  have hends : (Run.register jammedHost (Run.invoke jammedHost 2) 0).exec (jammedStart.enlist 0 .passing) =
      (.error (.panic .value), jammedSession) := Prod.ext rfl rfl
  obtain ⟨after, hexec, hafter, -, -, -, hlater⟩ := @World.stalled_of_failed_attachment Usher Bool Unit jammedHost 2
    jammedStart jammedSession 0 {} rfl rfl rfl .passing .value hends
  have hstandings : (jammedSession.modifyGuard 0 fun g => { g with changing := g.changing - 1 }).standings =
      [⟨2, false, true, 0, 0⟩] := by decide +kernel
  have hrun : (addPassing.run jammedHost 2 (jammedSession.modifyGuard 0 fun g =>
      { g with changing := g.changing - 1 })).1.isOk = true := by decide +kernel
  refine ⟨after, hexec, hafter ▸ hstandings, (hlater _ (.run .here 2 addPassing ?_)).1⟩
  exact Stop.ne_exhausted_of_isOk (hafter ▸ hrun)

/-- The panic leaves the blocker in the chain and the guard stalled, and the next blocker is added without anything
being asked of the source, which would not fail again: blockers are there, but no unload handler. -/
theorem failed_attachment_is_kept :
    (addPassing.run jammedHost 2 jammedStart).1.isOk = false ∧
    (addPassing.run jammedHost 2 jammedStart).2.standings = [⟨2, false, true, 0, 0⟩] ∧
    (addPassing.run jammedHost 2 (addPassing.run jammedHost 2 jammedStart).2).1.isOk = true ∧
    (addPassing.run jammedHost 2 (addPassing.run jammedHost 2 jammedStart).2).2.standings =
      [⟨3, false, true, 0, 0⟩] ∧
    (addPassing.run jammedHost 2 (addPassing.run jammedHost 2 jammedStart).2).2.unload.entries.length = 0 := by
  refine ⟨by decide +kernel, by decide +kernel, by decide +kernel, by decide +kernel, by decide +kernel⟩

end PageRouter
