import PageRouter.Proofs.Session.Attain
import PageRouter.Proofs.Session.Journal
import PageRouter.Proofs.Session.Reached

namespace PageRouter

variable {κ σ ε α : Type}

/-- A router that does not listen goes on showing the very location that it showed. -/
def World.Stays (router : RouterId) (world after : World κ σ ε) : Prop :=
  ∀ r, world.routers[router]? = some r → r.subscription = none →
    ∃ r', after.routers[router]? = some r' ∧ r'.subscription = none ∧ r'.location = r.location

namespace World.Stays

variable {router : RouterId} {world after : World κ σ ε}

private theorem refl (router : RouterId) (world : World κ σ ε) : Stays router world world :=
  fun r hrouter hdetached => ⟨r, hrouter, hdetached, rfl⟩

/-- A router that stays where it is in two runs, one after the other, does so in both together. -/
theorem trans {second third : World κ σ ε} (hfirst : Stays router world second)
    (hsecond : Stays router second third) : Stays router world third := by
  intro r hrouter hdetached
  obtain ⟨r', hrouter', hdetached', hlocation⟩ := hfirst r hrouter hdetached
  obtain ⟨r'', hrouter'', hdetached'', hlocation'⟩ := hsecond r' hrouter' hdetached'
  exact ⟨r'', hrouter'', hdetached'', hlocation'.trans hlocation⟩

private theorem of_getElem?_eq (hsame : after.routers[router]? = world.routers[router]?) : Stays router world after :=
  fun r hrouter hdetached => ⟨r, hsame.trans hrouter, hdetached, rfl⟩

/-- Minor changes leave a router where it is. -/
theorem of_minor (hminor : Minor world after) : Stays router world after := by
  intro r hrouter hdetached
  obtain ⟨r', hrouter', hkept⟩ := hminor.kept router r hrouter
  exact ⟨r', hrouter', by_contra fun hlistens => hkept.subscription hlistens hdetached, hkept.location⟩

/-- A route that is replaced leaves routers where they are. -/
theorem of_replaceRoute (world : World κ σ ε) (acting : RouterId) (route : Option Match) :
    Stays router world (world.replaceRoute acting route) := by
  by_cases hother : router = acting
  · subst hother
    intro r hrouter hdetached
    obtain ⟨stored, -, hself, -⟩ := getElem?_replaceRoute_self route hrouter
    exact ⟨_, hself, hdetached, rfl⟩
  · exact of_getElem?_eq (getElem?_replaceRoute_of_ne route hother)

end World.Stays

namespace Run

/-- Routers that do not listen stay where they are, but for those that are told of a change and those that are asked
to reconcile themselves. -/
def Unmoved (told : Multiset RouterId) (world after : World κ σ ε) : Prop :=
  ∃ events, after.journal = events ++ world.journal ∧
    ∀ router ∉ told, .syncAsked router ∉ events → world.Stays router after

private theorem unmoved_of_stays {world after : World κ σ ε} (told : Multiset RouterId) (events : List (Event ε))
    (hjournal : after.journal = events ++ world.journal) (hstays : ∀ router ∉ told, world.Stays router after) :
    Unmoved told world after :=
  ⟨events, hjournal, fun router huntold _ => hstays router huntold⟩

private theorem accrues_unmoved : Accrues (Unmoved : Multiset RouterId → World κ σ ε → World κ σ ε → Prop) where
  zero world := unmoved_of_stays 0 [] rfl fun router _ => .refl router world
  add _ _ _ hfirst hsecond := by
    obtain ⟨earlier, hjournal, hstays⟩ := hfirst
    obtain ⟨later, hjournal', hstays'⟩ := hsecond
    refine ⟨later ++ earlier, by rw [hjournal', hjournal, List.append_assoc], fun router huntold hasked => ?_⟩
    rw [Multiset.mem_add, not_or] at huntold
    rw [List.mem_append, not_or] at hasked
    exact (hstays router huntold.1 hasked.2).trans (hstays' router huntold.2 hasked.1)
  minor hminor := by
    obtain ⟨events, hjournal, -⟩ := hminor.journal
    exact unmoved_of_stays 0 events hjournal fun _ _ => .of_minor hminor

private theorem unmoved_record (world : World κ σ ε) (event : Event ε) : Along (Unmoved 0) world (world.record event) :=
  (advance_record world event).along fun _ => unmoved_of_stays 0 [event] rfl fun _ _ => .of_getElem?_eq rfl

private theorem deciding_unmoved : Deciding (Along (Unmoved 0) : World κ σ ε → World κ σ ε → Prop) where
  toSteady := accrues_unmoved.steady
  look world := unmoved_record world _
  step world _ _ := unmoved_record world _
  replaceRoute {world router r route} hrouter hdiffers :=
    (advance.replaceRoute hrouter hdiffers).along fun _ => by
      obtain ⟨stored, -, -, hjournal⟩ := World.getElem?_replaceRoute_self route hrouter
      exact unmoved_of_stays 0 [_] hjournal fun _ _ => .of_replaceRoute world router route

/-- Only the router that takes over a location moves. -/
theorem unmoved_relocate (world : World κ σ ε) (router : RouterId) :
    Along (Unmoved {router}) world (world.relocate router) :=
  (advance.relocate world router).along fun _ =>
    unmoved_of_stays {router} [] (world.journal_relocate router) fun _ huntold =>
      .of_getElem?_eq (World.getElem?_relocate_of_ne fun heq => huntold (Multiset.mem_singleton.2 heq))

section Passes

variable {invoke : Invoke κ σ ε} (hinvoke : ∀ callback told, Within (Along (Unmoved 0)) (invoke callback told))

include hinvoke

/-- A reconciliation moves the router that it is for at most. -/
theorem unmoved_sync (router : RouterId) : Within (Along (Unmoved {router})) (sync invoke router) :=
  deciding_unmoved.within_sync (accrues_unmoved.graded.spans {router}) hinvoke (unmoved_relocate · router)

/-- A router that is told of a change moves at most itself. -/
theorem unmoved_follow (router : RouterId) : Within (Along (Unmoved {router})) (follow invoke router) := by
  refine within_follow accrues_unmoved.steady (accrues_unmoved.graded.spans _)
    (fun world _ error _ => accrues_unmoved.tolerant.minor (.fail world router error)) (fun world _ => ?_)
    (unmoved_sync hinvoke router)
  exact (advance.refl world).along fun _ => unmoved_of_stays _ [] rfl fun other _ => .refl other world

/-- A change that is announced when a router does not listen does not concern it. -/
theorem unmoved_announce (history : History) : Within (Along (Unmoved 0)) (announce invoke history) := by
  intro world hends hsound
  have hchanged : ({ world with history }.record (.changed history.current)).Sound :=
    (hsound.travel history).record _
  have htold := within_notify_changes accrues_unmoved.graded accrues_unmoved.steady hinvoke
    (accrues_unmoved.tolerant.startPass .changes) (fun router => ({router} : Multiset RouterId))
    (unmoved_follow hinvoke) world.changes
  obtain ⟨hadvanced, events, hjournal, hstays⟩ := htold _ hends hchanged
  refine ⟨hadvanced, events ++ [.changed history.current], ?_, fun router _ hasked => ?_⟩
  · rw [List.append_assoc]
    exact hjournal
  · rw [List.mem_append, not_or] at hasked
    intro r hrouter hdetached
    refine hstays router (fun htold => ?_) hasked.1 r hrouter hdetached
    obtain ⟨r', hrouter', hlistens⟩ := hsound.mem_audience_iff.1 htold
    cases hrouter.symm.trans hrouter'
    exact hlistens hdetached

/-- A reconciliation that is asked for is noted, so that what it moves is accounted for. -/
theorem unmoved_syncAsked (router : RouterId) :
    Within (Along (Unmoved 0)) (do record (.syncAsked router); sync invoke router) := by
  intro world hends hsound
  obtain ⟨hadvanced, events, hjournal, hstays⟩ := unmoved_sync hinvoke router _ hends (hsound.record _)
  refine ⟨hadvanced, events ++ [.syncAsked router], ?_, fun other _ hasked => ?_⟩
  · rw [List.append_assoc]
    exact hjournal
  · rw [List.mem_append, not_or, List.mem_singleton] at hasked
    exact hstays other (fun htold => hasked.2 (congrArg _ (Multiset.mem_singleton.1 htold))) hasked.1

end Passes

/-- Over a whole run, routers that do not listen stay where they are unless they are asked to reconcile themselves. -/
theorem lasting_unmoved : Lasting (Along (Unmoved 0) : World κ σ ε → World κ σ ε → Prop) where
  toSteady := accrues_unmoved.steady
  look := deciding_unmoved.look
  announce {_} hinvoke {world} {history} _ := unmoved_announce hinvoke history world
  sync := unmoved_syncAsked

/-- Unless it runs out of depth, a computation leaves a sound session in which a router is still detached and shows the
very location that it showed, if the router was not asked on the way to reconcile itself. -/
def KeepsPlace (router : RouterId) (body : Run κ σ ε α) (world : World κ σ ε) : Prop :=
  (body.exec world).1 ≠ .error .exhausted → (body.exec world).2.Sound ∧
    ∃ events, (body.exec world).2.journal = events ++ world.journal ∧
      (.syncAsked router ∉ events → ∀ r, world.routers[router]? = some r →
        ∃ r', (body.exec world).2.routers[router]? = some r' ∧ r'.subscription = none ∧ r'.location = r.location)

private theorem keepsPlace_of_leads {router : RouterId} {told : Multiset RouterId} {body : Run κ σ ε α}
    {world : World κ σ ε} (hleads : Leads (Along (Unmoved told)) body world) (hsound : world.Sound)
    (huntold : router ∉ told) (hdetached : ∀ r, world.routers[router]? = some r → r.subscription = none) :
    KeepsPlace router body world := by
  intro hends
  obtain ⟨⟨hsound', -⟩, events, hjournal, hstays⟩ := hleads hends hsound
  refine ⟨hsound', events, hjournal, fun hasked r hrouter => ?_⟩
  exact hstays router huntold hasked r hrouter (hdetached r hrouter)

/-- Once a router is detached, whatever is done keeps it where it is, unless it is asked to reconcile itself: a
program, a change of the history that is announced, the rest of a pass over the listeners that does not come to the
router any more, the rest of a pass over observers, and the rest of a reconciliation. Callbacks may do in the meantime
whatever they like, at any depth. All this leaves a sound session again, so that one can follow another. -/
theorem detached_keepsPlace {world : World κ σ ε} (hsound : world.Sound) {router : RouterId}
    (hdetached : ∀ r, world.routers[router]? = some r → r.subscription = none) (host : Host κ σ ε) (depth : Nat) :
    (∀ program : Program κ σ ε α, KeepsPlace router (execute host (invoke host depth) program) world) ∧
    (∀ history, KeepsPlace router (announce (invoke host depth) history) world) ∧
    (∀ pass (listeners : List (Nat × Listener κ)), (∀ id, (id, .router router) ∉ listeners) →
      KeepsPlace router (runObservers pass .changes (hear (invoke host depth)) listeners) world) ∧
    (∀ pass channel observers,
      KeepsPlace router (runObservers pass channel (perform (invoke host depth)) observers) world) ∧
    ∀ other, KeepsPlace router (rematch (invoke host depth) other) world := by
  have hgraded := accrues_unmoved (κ := κ) (σ := σ) (ε := ε) |>.graded
  have hpanicked := panicked_of_steady (κ := κ) (σ := σ) (ε := ε) accrues_unmoved.steady
  have hinvoke (callback : κ) (told : Bool) : Within (Along (Unmoved 0)) (invoke host depth callback told) :=
    within_invoke lasting_unmoved host depth callback told
  have huntold : router ∉ (0 : Multiset RouterId) := Multiset.notMem_zero router
  refine ⟨fun program => ?_, fun history => ?_, fun pass listeners hnone => ?_, fun pass channel observers => ?_,
    fun other => ?_⟩
  · exact keepsPlace_of_leads (within_execute lasting_unmoved hinvoke program world) hsound huntold hdetached
  · exact keepsPlace_of_leads (unmoved_announce hinvoke history world) hsound huntold hdetached
  · have htold := within_runObservers hgraded (fun _ => 0) (Listener.amount fun other => ({other} : Multiset RouterId))
      hpanicked (fun id world => unmoved_record world (.ran pass .changes id (world.sightAt? .changes))) listeners
      fun entry _ => within_hear hgraded hinvoke _ (unmoved_follow hinvoke) entry.2
    simp only [zero_add] at htold
    refine keepsPlace_of_leads (htold world) hsound (fun htold => ?_) hdetached
    obtain ⟨id, hid⟩ := World.mem_sum_amount_iff.1 htold
    exact hnone id hid
  · have htold := within_runObservers hgraded.chains.graded (fun _ => ()) (fun _ => ()) hpanicked
      (fun id world => unmoved_record world (.ran pass channel id (world.sightAt? channel))) observers
      fun entry _ => within_perform hgraded.chains (hinvoke entry.2 false)
    exact keepsPlace_of_leads (htold world) hsound huntold hdetached
  · exact keepsPlace_of_leads (deciding_unmoved.within_rematch hinvoke other world) hsound huntold hdetached

end Run

/-- A host that, the first time that it is told of a change, goes to `/b`, detaches the router, notes where the router
is then, and goes to `/c`. -/
def strayHost : Host Unit Bool (Option Location) where
  respond _ _ := .inspect fun world =>
    if world.memory then .done false
    else
      .remember (fun _ => true) <| .ask (.commit .push { path := "/b" } "/b") fun _ =>
        .ask (.detach 0) fun _ => .inspect fun world =>
          .note (world.routers[0]?.map (·.location.value)) <|
            .ask (.commit .push { path := "/c" } "/c") fun _ => .done false
  refusal _ := none

/-- Listens to changes, opens a router, and goes to `/a`. -/
def stray : Program Unit Bool (Option Location) Unit :=
  .ask (.subscribe .changes ()) fun _ => .ask (.openRouter .nil) fun _ =>
    .ask (.commit .push { path := "/a" } "/a") fun _ => .done ()

/-- A place of the session. -/
def strayPlace (path : String) : Location :=
  ⟨"http://[::1]", "http://[::1]" ++ path, path, "", ""⟩

/-- The start of the session, at `/`. -/
def strayStart : World Unit Bool (Option Location) where
  history := .single (strayPlace "/")
  memory := false

/-- The session after the host has done all that. -/
def straySession : World Unit Bool (Option Location) :=
  (stray.run strayHost 3 strayStart).2

/-- Where the history went, that the router was detached or asked to reconcile itself, and where it was noted to be. -/
def strayStep? : Event (Option Location) → Option (String × Option Location)
  | .changed entry => some ("changed", some entry.location)
  | .detached _ => some ("detached", none)
  | .syncAsked _ => some ("asked", none)
  | .noted location => some ("noted", location)
  | _ => none

/-- The session can be got to. -/
theorem reached_straySession : Reached strayHost straySession :=
  .run (.start _ false) 3 stray (Stop.ne_exhausted_of_isOk (by decide +kernel))

/-- The router was at `/b` when it was detached, and nobody asked it to reconcile itself. The pass that told of `/a` was
going on, though, and took it to `/c`, where the history went after that. -/
theorem straySession_moves_detached_router :
    Reached strayHost straySession ∧
    straySession.journal.filterMap strayStep? =
      [("changed", some (strayPlace "/c")), ("noted", some (strayPlace "/b")), ("detached", none),
        ("changed", some (strayPlace "/b")), ("changed", some (strayPlace "/a"))] ∧
    straySession.routers.map (fun r => (r.subscription, r.location.value)) = [(none, strayPlace "/c")] := by
  refine ⟨reached_straySession, by decide +kernel, by decide +kernel⟩

/-- From there on, going elsewhere does not take the router along. -/
theorem straySession_keepsPlace :
    straySession.Sound ∧ (∀ r, straySession.routers[0]? = some r → r.subscription = none) ∧
      Run.KeepsPlace 0 (Run.execute strayHost (Run.invoke strayHost 1)
        (.request (.commit .push { path := "/d" } "/d"))) straySession := by
  have hsound : straySession.Sound := reached_straySession.sound
  have hdetached : straySession.routers.all (·.subscription.isNone) = true := by decide +kernel
  have hdetached (r : Router Unit) (hrouter : straySession.routers[0]? = some r) : r.subscription = none :=
    Option.isNone_iff_eq_none.1 (List.all_eq_true.1 hdetached r (List.mem_of_getElem? hrouter))
  obtain ⟨hprogram, -⟩ := Run.detached_keepsPlace (α := Except RouteError Unit) hsound hdetached strayHost 1
  exact ⟨hsound, hdetached, hprogram _⟩

end PageRouter
