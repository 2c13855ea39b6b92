import PageRouter.Proofs.Session.Turns

namespace PageRouter

variable {κ σ ε : Type}

namespace Run

section Other

variable {guard acting : GuardId} (hother : acting ≠ guard)

include hother

/-- Whatever is done about another guard but for its registration. -/
theorem tends_modifyGuard (world : World κ σ ε) {f : Guard κ → Guard κ}
    (hf : ∀ g id, (f g).unload = some id → g.unload = some id ∨ world.Owns acting id) :
    Tends guard world (world.modifyGuard acting f) := by
  refine tends_of_same [] rfl (truthful_nil guard) fun hlisted => ?_
  refine ⟨⟨hlisted.modifyGuard acting fun g _ => hf g, .refl _⟩, World.guardAt_modifyGuard_of_ne world f hother, ?_⟩
  exact World.isHandler_of_unload_eq rfl guard

private theorem tends_update (world : World κ σ ε) {f : Guard κ → Guard κ} (hunload : ∀ g, (f g).unload = g.unload) :
    Tends guard world (world.modifyGuard acting f) :=
  tends_modifyGuard hother world fun g _ hid => .inl (hunload g ▸ hid)

/-- A handler that belongs to another guard is removed. -/
theorem tends_unsubscribe {world : World κ σ ε} {registration : Nat} (howns : world.Owns acting registration) :
    Tends guard world { world with unload := world.unload.unsubscribe registration } := by
  refine tends_of_same [] rfl (truthful_nil guard) fun hlisted => ?_
  refine ⟨⟨hlisted.unsubscribe registration, .unsubscribe _ _⟩, World.guardAt_of_guards_eq rfl guard, ?_⟩
  intro id
  rw [World.IsHandler, Registry.mem_unsubscribe]
  refine and_iff_left_of_imp fun hmem heq => hother ?_
  rw [show id = registration from heq] at hmem
  exact (UnloadHandler.guard.inj (howns.2 _ hmem)).symm

/-- A handler of another guard is registered. -/
theorem tends_subscribe (world : World κ σ ε) :
    Tends guard world { world with unload := world.unload.subscribe (.guard acting) } := by
  refine tends_of_same [] rfl (truthful_nil guard) fun hlisted => ?_
  refine ⟨⟨hlisted.subscribe _, .subscribe _ _⟩, World.guardAt_of_guards_eq rfl guard, fun id => ?_⟩
  rw [World.IsHandler, Registry.mem_subscribe]
  exact or_iff_left (by simp [hother.symm])

variable {host : Host κ σ ε} {invoke : Invoke κ σ ε}
  (hinvoke : ∀ callback told, Within (Tends guard) (invoke callback told))

include hinvoke

/-- What the source does before it removes a handler may change much, but not whom the handler belongs to. -/
theorem tends_detachUnload {world : World κ σ ε} {registration : Nat} (howns : world.Owns acting registration) :
    Leads (Tends guard) (detachUnload host invoke acting registration) world := by
  have hchains := chains_tends (κ := κ) (σ := σ) (ε := ε) guard
  intro hends hlisted
  refine leads_bind hchains (tends_performHook hinvoke acting host.beforeDetach world)
    (fun _ middle _ hhook => ?_) hends hlisted
  have howns' : middle.Owns acting registration := howns.later (hhook hlisted).1.2
  exact leads_bind hchains (fun _ => tends_unsubscribe hother howns') fun _ after _ _ =>
    tends_performHook hinvoke acting host.afterDetach after

private theorem tends_attachUnload : Within (Tends guard) (attachUnload host invoke acting) := by
  have hchains := chains_tends (κ := κ) (σ := σ) (ε := ε) guard
  refine within_bind hchains (tends_performHook hinvoke acting host.beforeAttach) fun _ world hends hlisted => ?_
  have hsubscribed := tends_subscribe hother world
  refine leads_bind hchains (fun _ => hsubscribed) (fun registration registered hexec _ => ?_) hends hlisted
  obtain ⟨rfl, rfl⟩ := (Prod.mk.inj hexec).imp_left Except.ok.inj
  have howns := hlisted.owns_subscribe acting
  have hlisted' := (hsubscribed hlisted).1.1
  refine leads_bind hchains (tends_performHook hinvoke acting host.afterAttach _) fun _ middle _ hhook => ?_
  have howns' : middle.Owns acting world.unload.nextId := howns.later (hhook hlisted').1.2
  refine leads_bind hchains (fun _ => tends_update hother middle fun _ => rfl) fun _ settled hexec' _ => ?_
  cases hexec'
  rw [Leads, exec_get_bind]
  split
  · exact tends_detachUnload hother hinvoke howns'
  · refine fun _ => tends_modifyGuard hother _ fun g id hid => .inr ?_
    exact Option.some.inj hid ▸ howns'

/-- Adding a blocker to one guard leaves every other guard with its business, whatever the source does in between. -/
theorem tends_addBlocker_of_ne (callback : κ) : Within (Tends guard) (addBlocker host invoke acting callback) := by
  have hchains := chains_tends (κ := κ) (σ := σ) (ε := ε) guard
  refine within_between hchains.widens.toSpans (fun world => tends_update hother world fun _ => rfl)
    (fun world => tends_update hother world fun _ => rfl) (within_get_bind fun world => ?_)
  split
  · exact within_pure hchains _
  · refine within_bind hchains (within_modify fun world => tends_update hother world fun _ => rfl) fun _ => ?_
    split
    · exact within_bind hchains (tends_attachUnload hother hinvoke) fun _ => within_pure hchains _
    · exact within_pure hchains _

/-- Removing a blocker of one guard leaves every other guard with its business. -/
theorem tends_removeBlocker_of_ne (id : Nat) : Within (Tends guard) (removeBlocker host invoke acting id) := by
  have hchains := chains_tends (κ := κ) (σ := σ) (ε := ε) guard
  refine within_get_bind fun world => ?_
  split
  · refine within_between hchains.widens.toSpans (fun world => tends_update hother world fun _ => rfl)
      (fun world => tends_update hother world fun _ => rfl) ?_
    refine within_between hchains.widens.toSpans (fun world => tends_update hother world fun _ => rfl)
      (fun world => tends_update hother world fun _ => rfl) ?_
    refine within_bind hchains (within_modify fun world => tends_update hother world fun _ => rfl) fun _ => ?_
    intro world
    rw [Leads, exec_get_bind]
    split
    · exact fun _ => hchains.refl world
    · next g hguard =>
      split
      · have hunload : Tends guard world (world.modifyGuard acting fun g => { g with unload := none }) :=
          tends_modifyGuard hother world fun _ _ hid => by cases hid
        rcases hregistration : g.unload with _ | registration
        · exact fun _ => hunload
        · intro hends hlisted
          have howns : world.Owns acting registration :=
            hlisted.owned acting registration (by rw [World.guardAt_of_some hguard]; exact hregistration)
          exact hchains.trans hunload (tends_detachUnload hother hinvoke howns hends) hlisted
      · exact fun _ => hchains.refl world
  · exact within_pure hchains ()

end Other

section Same

variable {guard : GuardId} {host : Host κ σ ε} {invoke : Invoke κ σ ε}
  (hinvoke : ∀ callback told, Within (Tends guard) (invoke callback told))

include hinvoke

/-- A handler that is a stray has been removed when the source is through with that. -/
theorem turns_detachUnload (registration : Nat) :
    Within (Turns guard (registration ∈ ·.strays) fun b => { b with strays := b.strays \ {registration} })
      (detachUnload host invoke guard registration) := by
  refine fun world => turns_performHook_bind hinvoke host.beforeDetach fun middle _ _ => ?_
  have hcomp {second third : World κ σ ε} (hfirst : Turns guard (registration ∈ ·.strays)
      (fun b => { b with strays := b.strays \ {registration} }) middle second) (hsecond : Tends guard second third) :=
    hfirst.comp hsecond (fun _ _ => trivial) fun b _ hidle hchanging => by
      obtain ⟨hattaching, hstrays⟩ := hidle hchanging
      exact ⟨hattaching, by simp [hstrays]⟩
  exact leads_bind_calm (calm_modify _) hcomp (fun _ => turns_unsubscribe middle registration) fun _ =>
    tends_performHook hinvoke guard host.afterDetach

/-- When the source is through with registering the handler, the guard keeps it or does without, as needed. -/
theorem turns_conclude {world : World κ σ ε} {registration : Nat} (howns : world.Owns guard registration) :
    Leads (Turns guard (fun b => b.attaching = true ∧ b.changing ≠ 0 ∧ registration ∈ b.strays)
      fun b => { b with attaching := false, strays := b.strays \ {registration} }) (do
        modify (·.modifyGuard guard fun g => { g with attaching := false })
        if (← get).guards[guard]?.all (·.blockers.isEmpty) then detachUnload host invoke guard registration
        else modify (·.modifyGuard guard fun g => { g with unload := some registration })) world := by
  rcases hguard : world.guards[guard]? with _ | g
  · rw [Leads, exec_bind_ok (exec_modify _ _), exec_get_bind, World.modifyGuard_of_none _ hguard, hguard]
    refine fun hends => (turns_detachUnload hinvoke registration world hends).mono fun _ hb => ?_
    obtain ⟨g, hguard'⟩ := World.exists_of_changing hb.2.1
    cases hguard.symm.trans hguard'
  · rw [Leads, exec_bind_ok (exec_modify _ _), exec_get_bind, World.getElem?_modifyGuard, hguard]
    split
    · next hempty =>
      have hentries : g.blockers.entries = [] := List.isEmpty_iff.1 hempty
      have hdone : Turns guard (fun b => b.attaching = true ∧ b.changing ≠ 0 ∧ registration ∈ b.strays)
          (fun b => { b with attaching := false }) world
          (world.modifyGuard guard fun g => { g with attaching := false }) := by
        refine turns_update hguard _ rfl (fun hb hattaching _ => ⟨fun h => ?_, fun _ => ?_⟩) rfl
        · exact absurd h Bool.false_ne_true
        · have hbefore : (world.business guard).attaching = g.attaching := by rw [World.business_eq hguard]
          exact iff_of_true (hattaching (hbefore ▸ hb.1)) hentries
      exact fun hends => hdone.comp (turns_detachUnload hinvoke registration _ hends) (fun _ hb => hb.2.2)
        fun _ hb _ hzero => absurd hzero hb.2.1
    · next hblockers =>
      have hentries : g.blockers.entries ≠ [] := fun hnil => hblockers (List.isEmpty_iff.2 hnil)
      rw [exec_modify, World.modifyGuard_modifyGuard]
      refine fun _ => (turns_keep hguard hentries howns _ rfl).mono fun _ hb => ⟨⟨hb.1, hb.2.2⟩, rfl⟩

/-- However long the source takes to register the handler, in the end it is there exactly if it is needed. -/
theorem turns_attachUnload :
    Within (Turns guard (fun b => b.attaching = true ∧ b.changing ≠ 0) fun b => { b with attaching := false })
      (attachUnload host invoke guard) := by
  refine fun _ => turns_performHook_bind hinvoke host.beforeAttach fun world hlisted _ hends => ?_
  have howns := hlisted.owns_subscribe guard
  have hsubscribed : Turns guard (fun b => b.attaching = true ∧ b.changing ≠ 0)
      (fun b => { b with strays := insert world.unload.nextId b.strays }) world
      { world with unload := world.unload.subscribe (.guard guard) } :=
    (turns_subscribe world).mono fun _ _ => ⟨trivial, rfl⟩
  have hconcluded := turns_performHook_bind hinvoke host.afterAttach (fun middle _ hlater =>
    turns_conclude hinvoke (howns.later hlater)) hends
  have hattached := hsubscribed.comp hconcluded (fun b hb => ⟨hb.1, hb.2, Set.mem_insert _ _⟩)
    fun _ hb _ hzero => absurd hzero hb.2
  refine hattached.mono fun _ hb => ⟨hb, ?_⟩
  have hfresh : world.unload.nextId ∉ (world.business guard).strays := fun hstray =>
    Nat.lt_irrefl _ (hstray.1.lt_nextId hlisted)
  rw [Set.insert_sdiff_self_of_notMem hfresh]

/-- Adding a blocker attaches the handler of the guard if that is not done and not under way, and nothing else. The
source may run callbacks in between; whatever these do, they leave the business of the guard as they found it, so that
it is finished when the addition is. -/
theorem tends_addBlocker (callback : κ) : Within (Tends guard) (addBlocker host invoke guard callback) := by
  intro world
  rw [Leads, addBlocker, changingGuard, exec_between]
  rcases hguard : world.guards[guard]? with _ | g
  · rw [World.modifyGuard_of_none _ hguard, exec_get_bind, hguard]
    refine fun _ => ?_
    rw [World.modifyGuard_of_none _ (by exact hguard)]
    exact (chains_tends guard).refl world
  · have hentered : (world.modifyGuard guard fun g => { g with changing := g.changing + 1 }).guards[guard]? =
        some { g with changing := g.changing + 1 } := by
      rw [World.getElem?_modifyGuard, hguard]
      rfl
    have hbusiness : (world.business guard).attaching = g.attaching := by rw [World.business_eq hguard]
    rw [exec_get_bind, hentered]
    dsimp only
    rcases hattach : g.unload.isNone && !g.attaching with _ | _
    · exact fun _ => (turns_enlist hguard callback hattach).leave (fun _ => rfl) (Bool.or_false _) rfl
    · have hattached : Within (Turns guard (fun b => b.attaching = true ∧ b.changing ≠ 0)
          fun b => { b with attaching := false }) (attachUnload host invoke guard) := turns_attachUnload hinvoke
      intro hends
      have henlisted := (turns_enlist hguard callback hattach).comp
        (leads_bind_pure (⟨.blockers guard, g.blockers.nextId⟩ : Subscription) (hattached _) hends)
        (fun b _ => ⟨Bool.or_true _, Nat.succ_ne_zero _⟩) fun b _ _ hzero => absurd hzero (Nat.succ_ne_zero _)
      refine henlisted.leave (fun _ => rfl) ?_ rfl
      rw [hbusiness]
      exact (Bool.not_eq_true' _ ▸ (Bool.and_eq_true_iff.1 hattach).2).symm

/-- Removing a blocker removes the handler of the guard if that was the last one, and nothing else. -/
theorem tends_removeBlocker (id : Nat) : Within (Tends guard) (removeBlocker host invoke guard id) := by
  have hchains := chains_tends (κ := κ) (σ := σ) (ε := ε) guard
  have hheld {world after : World κ σ ε} (hstill : Still world after) (hjournal : after.journal = world.journal) :
      Tends guard world after :=
    tends_of_keepsGuards hstill.guards [] hjournal (truthful_nil guard)
  refine within_get_bind fun world => ?_
  split
  · refine within_between hchains.widens.toSpans (fun world => hheld (.holdGuard world guard) rfl)
      (fun world => hheld (.releaseGuard world guard) rfl) ?_
    intro world
    rw [Leads, changingGuard, exec_between, exec_bind_ok (exec_modify _ _), exec_get_bind,
      World.modifyGuard_modifyGuard]
    rcases hguard : world.guards[guard]? with _ | g
    · rw [World.modifyGuard_of_none _ hguard, hguard]
      refine fun _ => ?_
      rw [World.modifyGuard_of_none _ (by exact hguard)]
      exact hchains.refl world
    · rw [World.getElem?_modifyGuard, hguard, Option.map_some]
      dsimp only [Function.comp_apply]
      split
      · next hempty =>
        have hentries : (g.blockers.unsubscribe id).entries = [] := List.isEmpty_iff.1 hempty
        rw [exec_bind_ok (exec_modify _ _), World.modifyGuard_modifyGuard]
        -- The chain is empty now. A handler that the guard holds is let go of first and removed then; in between it
        -- is a stray.
        rcases hregistration : g.unload with _ | registration
        · have hdismissed := turns_dismiss hguard id (·.dismissLast id) (Guard.dismissLast_eq_dismiss hregistration id)
            (.inr hregistration)
          exact fun _ => hdismissed.leave (fun _ => rfl) rfl rfl
        · have hdetached : Within (Turns guard (registration ∈ ·.strays)
              fun b => { b with strays := b.strays \ {registration} }) (detachUnload host invoke guard registration) :=
            turns_detachUnload hinvoke registration
          intro hends
          have hdismissed := (turns_dismissLast hguard hregistration hentries).comp
            (hdetached _ hends) (fun b _ => Set.mem_insert registration b.strays)
            fun b _ _ hzero => absurd hzero (Nat.succ_ne_zero _)
          refine hdismissed.leave (fun _ => rfl) rfl (Set.insert_sdiff_self_of_notMem fun hstray => hstray.2 ?_)
          rw [World.guardAt_of_some hguard]
          exact hregistration
      · next hleft =>
        have hentries : (g.blockers.unsubscribe id).entries ≠ [] := fun hnil => hleft (List.isEmpty_iff.2 hnil)
        have hdismissed := turns_dismiss hguard id (·.dismiss id) rfl (.inl hentries)
        exact fun _ => hdismissed.leave (fun _ => rfl) rfl rfl
  · exact within_pure hchains ()

end Same

end Run

end PageRouter
