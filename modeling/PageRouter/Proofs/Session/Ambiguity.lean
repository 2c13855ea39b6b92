import PageRouter.Proofs.Session.Errors
import PageRouter.Proofs.Session.Mirror

namespace PageRouter

variable {κ σ ε α : Type}

/-- Events that tell neither of another route nor of a route observer that is run. -/
def Event.SparesRoutes : Event ε → Prop
  | .routeReplaced .. | .ran _ (.routes _) _ _ => False
  | _ => True

private theorem Event.IsQuiet.sparesRoutes {event : Event ε} (h : event.IsQuiet) : event.SparesRoutes := by
  cases event with
  | routeReplaced => exact h.elim
  | ran pass channel => cases channel <;> first | exact h.elim | trivial
  | _ => trivial

/-- What happened since the history changed last, latest first. -/
def sinceChange (journal : List (Event ε)) : List (Event ε) :=
  journal.takeWhile fun event => !event.isChange

/-- What happens without a change of the history comes to what happened since the last one. -/
theorem sinceChange_append {events : List (Event ε)} (hchanges : ∀ event ∈ events, event.isChange = false)
    (journal : List (Event ε)) : sinceChange (events ++ journal) = events ++ sinceChange journal :=
  List.takeWhile_append_of_pos fun event hevent => by rw [hchanges event hevent, Bool.not_false]

namespace World

/-- A router that listens keeps the error of the current location, if it is a tie, unless the error was taken since
the history changed last. Reconciliations can be nested in each other, and each of them can fail for another location;
when all of them are over, what the router keeps is the error of the location that it shows by then. -/
def ReportsAt (world : World κ σ ε) (router : RouterId) : Prop :=
  ∀ r, world.routers[router]? = some r → r.subscription ≠ none →
    (∀ answer, .errorTaken router answer ∉ sinceChange world.journal) →
      ∀ error, r.tree.resolve world.history.location.pathname = .error error →
        world.syncError router = some error

variable {world after : World κ σ ε} {router other : RouterId}

/-- A router that does not listen has nothing to report. -/
theorem reportsAt_of_deaf (hdeaf : ∀ r, world.routers[router]? = some r → r.subscription = none) :
    world.ReportsAt router :=
  fun r hrouter hlistens => absurd (hdeaf r hrouter) hlistens

/-- A router goes on to report if it keeps its routes and its error where the history is. -/
theorem ReportsAt.of_kept (h : world.ReportsAt router) (events : List (Event ε))
    (hjournal : after.journal = events ++ world.journal) (hchanges : ∀ event ∈ events, event.isChange = false)
    (hhistory : after.history = world.history)
    (hrouters : ∀ r', after.routers[router]? = some r' → ∃ r, world.routers[router]? = some r ∧
      r'.tree = r.tree ∧ r'.subscription = r.subscription)
    (herror : after.syncError router = world.syncError router) : after.ReportsAt router := by
  intro r' hrouter' hlistens huntaken error hresult
  obtain ⟨r, hrouter, htree, hsubscription⟩ := hrouters r' hrouter'
  rw [hsubscription] at hlistens
  rw [htree, hhistory] at hresult
  rw [hjournal, sinceChange_append hchanges] at huntaken
  rw [herror]
  exact h r hrouter hlistens (fun answer htaken => huntaken answer (List.mem_append_right _ htaken)) error hresult

private theorem ReportsAt.record (h : world.ReportsAt router) {event : Event ε} (hchange : event.isChange = false) :
    (world.record event).ReportsAt router :=
  h.of_kept [event] rfl (List.forall_mem_singleton.2 hchange) rfl (fun r' hrouter' => ⟨r', hrouter', rfl, rfl⟩) rfl

/-- A router that takes over the location of the history leaves other routers with what they report. -/
theorem ReportsAt.relocate (h : world.ReportsAt other) : (world.relocate router).ReportsAt other := by
  refine h.of_kept [] (world.journal_relocate router) (by simp) (world.history_relocate router) (fun r' hrouter' => ?_)
    (world.syncError_relocate router other)
  by_cases hother : other = router
  · subst hother
    rcases hrouter : world.routers[other]? with _ | r
    · rw [relocate_of_none hrouter, hrouter] at hrouter'
      cases hrouter'
    · obtain ⟨stored, -, hself⟩ := getElem?_relocate_self hrouter
      cases hself.symm.trans hrouter'
      exact ⟨r, rfl, rfl, rfl⟩
  · rw [getElem?_relocate_of_ne hother] at hrouter'
    exact ⟨r', hrouter', rfl, rfl⟩

private theorem ReportsAt.replaceRoute (h : world.ReportsAt other) {r : Router κ} (route : Option Match)
    (hrouter : world.routers[router]? = some r) : (world.replaceRoute router route).ReportsAt other := by
  obtain ⟨stored, -, hself, hjournal⟩ := getElem?_replaceRoute_self route hrouter
  refine h.of_kept [_] hjournal (by simp [Event.isChange]) (world.history_replaceRoute router route)
    (fun r' hrouter' => ?_) (world.syncError_replaceRoute router route other)
  by_cases hother : other = router
  · subst hother
    cases hself.symm.trans hrouter'
    exact ⟨r, hrouter, rfl, rfl⟩
  · rw [getElem?_replaceRoute_of_ne route hother] at hrouter'
    exact ⟨r', hrouter', rfl, rfl⟩

/-- A router that fails leaves other routers with what they report. -/
theorem ReportsAt.fail (h : world.ReportsAt other) (hother : other ≠ router) (error : RouteError) :
    (world.fail router error).ReportsAt other := by
  refine h.of_kept [.syncFailed router error] rfl (by simp [Event.isChange]) rfl (fun r' hrouter' => ?_)
    (syncError_modifyRouter_of_ne _ _ hother)
  rw [getElem?_modifyRouter, if_neg (Ne.symm hother)] at hrouter'
  exact ⟨r', hrouter', rfl, rfl⟩

/-- A router that fails where the history is keeps the error of that place. -/
theorem reportsAt_fail {r : Router κ} {error : RouteError} (hcurrent : world.CurrentAt router)
    (hrouter : world.routers[router]? = some r) (htie : r.tree.resolve r.location.value.pathname = .error error) :
    (world.fail router error).ReportsAt router := by
  intro r' hrouter' hlistens _ error' hresult
  rw [getElem?_modifyRouter, if_pos rfl] at hrouter'
  obtain ⟨r'', hrouter'', rfl⟩ := Option.map_eq_some_iff.1 hrouter'
  cases hrouter.symm.trans hrouter''
  rw [hcurrent r hrouter hlistens] at htie
  cases htie.symm.trans hresult
  exact syncError_fail hrouter error

/-- A router that has a route where the history is, or none, has nothing to report. -/
theorem reportsAt_of_resolved {r : Router κ} {route : Option Match} (hcurrent : world.CurrentAt router)
    (hrouter : world.routers[router]? = some r) (hroute : r.tree.resolve r.location.value.pathname = .ok route) :
    world.ReportsAt router := by
  intro r' hrouter' hlistens _ error hresult
  cases hrouter.symm.trans hrouter'
  rw [hcurrent r hrouter hlistens] at hroute
  cases hroute.symm.trans hresult

/-- In a minor change without a failure, errors are taken at most, which is noted. -/
theorem ReportsAt.of_abreast (habreast : Run.Abreast world after) (h : world.ReportsAt router) :
    after.ReportsAt router := by
  intro r' hrouter' hlistens huntaken error hresult
  have hminor := habreast.minor
  rw [hminor.history] at hresult
  rcases hrouter : world.routers[router]? with _ | r
  · -- A router is not opened at a tie.
    rw [(hminor.opened_of_new hrouter hrouter').2] at hresult
    cases hresult
  · obtain ⟨r'', hrouter'', hkept⟩ := hminor.kept router r hrouter
    cases hrouter'.symm.trans hrouter''
    obtain ⟨events, hjournal, hquiet, hkeepsError⟩ := habreast.keepsError
    rw [hjournal, sinceChange_append fun event hevent => (hquiet event hevent).isChange] at huntaken
    rw [hkept.tree] at hresult
    rw [hkeepsError router fun answer htaken => huntaken answer (List.mem_append_left _ htaken)]
    exact h r hrouter (hkept.subscription hlistens)
      (fun answer htaken => huntaken answer (List.mem_append_right _ htaken)) error hresult

end World

namespace Run

variable {invoke : Invoke κ σ ε} {router : RouterId}

section Reports

/-- Routers that are up to date stay so, those that report go on to do so, and certain ones get there. -/
def Reports (routers : Multiset RouterId) (world after : World κ σ ε) : Prop :=
  Catches routers world after ∧ Attains World.ReportsAt routers world after

private theorem reports_of_kept {world after : World κ σ ε}
    (hcurrent : ∀ router, world.CurrentAt router → after.CurrentAt router)
    (hreports : ∀ router, world.ReportsAt router → after.ReportsAt router) : Reports 0 world after :=
  ⟨.of_kept hcurrent, .of_kept hreports⟩

/-- Routers that report after one part of a pass go on to do so in the next one. -/
theorem adds_reports : Adds (Reports : Multiset RouterId → World κ σ ε → World κ σ ε → Prop) where
  zero world := ⟨.zero world, .zero world⟩
  add _ _ _ hfirst hsecond := ⟨hfirst.1.add hsecond.1, hfirst.2.add hsecond.2⟩

private theorem upholding_reports :
    Upholding (Along (Reports 0) : World κ σ ε → World κ σ ε → Prop) (Along (Reports 0)) :=
  { adds_reports.graded.chains.widens with
    abreast := fun habreast => (tolerant_advance.minor habreast.minor).along fun _ =>
      reports_of_kept (fun _ h => habreast.minor.currentAt h) fun _ h => h.of_abreast habreast }

private theorem reports_record (world : World κ σ ε) {event : Event ε} (hchange : event.isChange = false) :
    Along (Reports 0) world (world.record event) :=
  (advance_record world event).along fun _ => reports_of_kept (fun _ h => h) fun _ h => h.record hchange

private theorem following_reports : Following (Along (Reports 0) : World κ σ ε → World κ σ ε → Prop) where
  toSteady := upholding_reports.steady
  look world := reports_record world rfl
  step world event := fun hstep => reports_record world (by cases event <;> first | exact hstep.elim | rfl)
  replaceRoute {_ _ _ route} hrouter hdiffers := (advance.replaceRoute hrouter hdiffers).along fun _ =>
    reports_of_kept (fun _ h => World.currentAt_replaceRoute route h) fun _ h => h.replaceRoute route hrouter
  relocate world router := (advance.relocate world router).along fun _ =>
    reports_of_kept (fun _ h => World.currentAt_relocate h) fun _ h => h.relocate

variable (hinvoke : ∀ callback told, Within (Along (Reports 0)) (invoke callback told))

include hinvoke

/-- A router that shows where the history is has reported when it has resolved its location. -/
theorem reports_rematch : Within (fun world after => world.CurrentAt router → Along (Reports {router}) world after)
    (rematch invoke router >>= keepFailure router) := by
  -- But for the tie there is nothing to report: the router is gone, or its path resolves.
  have hnone {world after : World κ σ ε} (hreports : world.ReportsAt router)
      (hkept : Along (Reports 0) world after) (hcurrent : world.CurrentAt router) :
      Along (Reports {router}) world after :=
    hkept.mono fun _ h => ⟨h.1.single hcurrent, h.2.single hreports⟩
  refine within_rematch_bind ?_ ?_ ?_ ?_
  · intro world hgone _ hcurrent
    refine hnone (World.reportsAt_of_deaf fun r hrouter => ?_) (adds_reports.graded.zero world) hcurrent
    rw [hgone] at hrouter
    cases hrouter
  · intro world r templates hrouter htie _ hcurrent
    let tied := world.record (.ambiguous r.location.value.pathname templates)
    have hminor : Minor tied (tied.fail router (.ambiguous r.location.value.pathname templates)) :=
      .fail tied router _
    have hfailed : (tied.fail router (.ambiguous r.location.value.pathname templates)).ReportsAt router :=
      World.reportsAt_fail (show tied.CurrentAt router from hcurrent) hrouter htie
    refine (advance.trans (advance_record world _) (tolerant_advance.minor hminor)).along fun _ => ?_
    refine ⟨.single (.of_kept fun _ h => hminor.currentAt h) hcurrent, .of_single (fun other h => ?_) hfailed⟩
    rcases eq_or_ne other router with rfl | hother
    · exact hfailed
    · exact (h.record rfl).fail hother _
  · intro world r route hrouter hroute _ _ hcurrent
    exact hnone (World.reportsAt_of_resolved hcurrent hrouter hroute) (adds_reports.graded.zero world) hcurrent
  · intro world r route hrouter hroute hdiffers hends hcurrent
    refine hnone (World.reportsAt_of_resolved hcurrent hrouter hroute) ?_ hcurrent
    refine leads_bind_calm (calm_modify _) following_reports.trans (fun _ => ?_) (fun _ => ?_) hends
    · exact following_reports.replaceRoute hrouter hdiffers
    · exact within_bind following_reports.toChains (following_reports.within_tell hinvoke nofun) fun _ =>
        within_pure following_reports.toChains ()

/-- A reconciliation that fails has the router report, and one that does not leaves nothing to report. -/
theorem reports_heed : Within (Along (Reports {router})) (heed invoke router) := by
  have hspans := adds_reports (κ := κ) (σ := σ) (ε := ε) |>.graded.spans {router}
  have htold : Within (Along (Reports 0)) (tell invoke .locations (·.locationObservers) router) :=
    following_reports.within_tell hinvoke nofun
  have hdecided : Within (fun world after => world.CurrentAt router → Along (Reports {router}) world after)
      (do tell invoke .locations (·.locationObservers) router; rematch invoke router >>= keepFailure router) := by
    intro world
    refine leads_bind_calm (calm_tell invoke _ _ router) (fun htold hdecided hcurrent hsound => ?_) (htold world)
      fun _ => reports_rematch hinvoke
    have hcurrent := (htold hsound).2.1.1 router hcurrent
    exact hspans.before htold (hdecided hcurrent) hsound
  -- Observers may go elsewhere, but the router goes along with them.
  intro world hends
  rw [heed, sync, bind_assoc, bind_assoc] at hends ⊢
  exact hspans.before (following_reports.relocate world router)
    (hdecided (world.relocate router) hends (World.currentAt_relocate_self world router))

/-- A router that is told of a change has reported by the time it has followed. -/
theorem reports_follow : Within (Along (Reports {router})) (follow invoke router) := by
  refine within_follow_of upholding_reports.steady (adds_reports.graded.spans _) (fun world hgone => ?_)
    (reports_heed hinvoke)
  refine (advance.refl world).along fun hsound => ?_
  have hdeaf (r : Router κ) (hrouter : world.routers[router]? = some r) : r.subscription = none :=
    hsound.subscription_of_not_held hrouter hgone
  exact ⟨.single (.zero world) (World.currentAt_of_deaf hdeaf), .single (.zero world) (World.reportsAt_of_deaf hdeaf)⟩

/-- When all listeners were told of a change, every router that fails where the history is has reported. -/
theorem reports_announce (history : History) :
    Within (Along fun _ after => ∀ router, after.CurrentAt router ∧ after.ReportsAt router)
      (announce invoke history) :=
  attains_announce adds_reports upholding_reports.steady (upholding_reports.startPass .changes)
    (fun h => ⟨fun other hother => ⟨h.1.1 other hother.1, h.2.1 other hother.2⟩,
      fun router hrouter => ⟨h.1.2 router hrouter, h.2.2 router hrouter⟩⟩)
    (fun hdeaf => ⟨World.currentAt_of_deaf hdeaf, World.reportsAt_of_deaf hdeaf⟩) hinvoke
    (fun _ => reports_follow hinvoke) history

end Reports

/-- Over a whole run, routers that reported end up doing so. -/
theorem lasting_reports : Lasting (Along (Reports 0) : World κ σ ε → World κ σ ε → Prop) where
  toSteady := following_reports.toSteady
  look := following_reports.look
  announce {_} hinvoke {world} {history} _ hends :=
    (reports_announce hinvoke history world hends).mono fun _ h =>
      reports_of_kept (fun router _ => (h router).1) fun router _ => (h router).2
  sync := following_reports.within_syncAsked

section Failing

/-- All routers keep the very routes that they have stored, and no route observer is run. -/
def SparesRoutes (world after : World κ σ ε) : Prop :=
  world.Each (fun r r' => r'.route = r.route) after ∧
    ∃ events, after.journal = events ++ world.journal ∧ ∀ event ∈ events, event.SparesRoutes

private theorem sparesRoutes_record (world : World κ σ ε) {event : Event ε} (hspares : event.SparesRoutes) :
    SparesRoutes world (world.record event) :=
  ⟨fun _ r hrouter => ⟨r, hrouter, rfl⟩, [event], rfl, List.forall_mem_singleton.2 hspares⟩

private theorem tolerant_sparesRoutes : Tolerant (SparesRoutes : World κ σ ε → World κ σ ε → Prop) SparesRoutes :=
  have hchains : Chains (SparesRoutes : World κ σ ε → World κ σ ε → Prop) := by
    refine ⟨fun _ => ⟨fun _ r hrouter => ⟨r, hrouter, rfl⟩, [], rfl, by simp⟩, fun hfirst hsecond => ?_⟩
    obtain ⟨hroutes, earlier, hjournal, hearlier⟩ := hfirst
    obtain ⟨hroutes', later, hjournal', hlater⟩ := hsecond
    refine ⟨hroutes.trans (fun _ _ _ h h' => h'.trans h) hroutes', later ++ earlier, ?_, fun event hevent => ?_⟩
    · rw [hjournal', hjournal, List.append_assoc]
    · exact (List.mem_append.1 hevent).elim (hlater event) (hearlier event)
  { hchains.widens with
    minor := fun hminor => by
      obtain ⟨events, hjournal, hquiet⟩ := hminor.journal
      refine ⟨hminor.kept.mono Router.Kept.route, events, hjournal, fun event hevent => ?_⟩
      exact (hquiet event hevent).sparesRoutes }

/-- What a reconciliation that fails comes to. It takes over the location, tells the location observers, and comes upon
a tie then: the stored routes and the journal are what the location observers have left, and a note of the tie. -/
structure FailsAt (invoke : Invoke κ σ ε) (router : RouterId) (error : RouteError) (world after : World κ σ ε) :
    Prop where
  told : ∃ told path templates, error = .ambiguous path templates ∧
    (tell invoke .locations (·.locationObservers) router).exec (world.relocate router) = (.ok (), told) ∧
      after = told.record (.ambiguous path templates)
  relocated : SparesRoutes world (world.relocate router)
  spared : (∀ callback told, Within SparesRoutes (invoke callback told)) → SparesRoutes world after

/-- A reconciliation that gives an error has failed in this way. -/
theorem failsAt_of_sync {error : RouteError} {world after : World κ σ ε}
    (hsync : (sync invoke router).exec world = (.ok (.error error), after)) :
    FailsAt invoke router error world after := by
  obtain ⟨told, r, templates, htold, -, -, rfl, rfl⟩ := sync_eq_error hsync
  have hrelocated : SparesRoutes world (world.relocate router) :=
    ⟨world.route_relocate router, [], world.journal_relocate router, by simp⟩
  refine ⟨⟨told, _, templates, rfl, htold, rfl⟩, hrelocated, fun hinvoke => ?_⟩
  have hobserved : Within SparesRoutes (tell invoke .locations (·.locationObservers) router) :=
    within_tell tolerant_sparesRoutes.steady nofun (fun _ _ world => sparesRoutes_record world trivial) hinvoke
  have hspared := hobserved (world.relocate router)
  rw [Leads, htold] at hspared
  exact tolerant_sparesRoutes.trans (tolerant_sparesRoutes.trans hrelocated (hspared (by simp)))
    (sparesRoutes_record told trivial)

end Failing

/-- Taking the error of a router answers what it kept, and leaves it without one. -/
theorem exec_takeSyncError (router : RouterId) (world : World κ σ ε) :
    (takeSyncError router).exec world = (.ok (world.syncError router), world.takeError router) := rfl

end Run

/-- Whenever no program is running, every router reports. -/
theorem Reached.reportsAt {host : Host κ σ ε} {world : World κ σ ε} (h : Reached host world) (router : RouterId) :
    world.ReportsAt router := by
  induction h with
  | start location memory => exact fun r hrouter => by simp at hrouter
  | run hworld depth program hends ih =>
    exact (Run.lasting_reports.run host depth program hends hworld.sound).2.2.1 router ih

/-- An ambiguous location is never swallowed. Whenever no program is running, a router that listens and is at one gives
its error to whoever asks first after the last change of the history, and to nobody else. An error is given to anybody
only if the router could not follow a change since its error was taken before. A reconciliation that fails leaves the
routes and their observers alone. Failures are reported after changes of the history only, so that neither a
reconciliation that a program asks for nor a navigation that is refused reports one. -/
theorem Reached.ambiguity_is_kept {host : Host κ σ ε} {world : World κ σ ε} (h : Reached host world)
    {router : RouterId} {r : Router κ} (hrouter : world.routers[router]? = some r) :
    (r.subscription ≠ none → (∀ answer, .errorTaken router answer ∉ sinceChange world.journal) →
      ∀ error, r.tree.resolve r.location.value.pathname = .error error →
        ∃ taken, (Run.takeSyncError router).exec world = (.ok (some error), taken) ∧
          ∃ after, (Run.takeSyncError router).exec taken = (.ok none, after)) ∧
    (∀ later error earlier, world.journal = later ++ .errorTaken router (some error) :: earlier →
      ∃ silent before, earlier = silent ++ .syncFailed router error :: before ∧
        ∀ event ∈ silent, event.report? router = none) ∧
    (∀ (invoke : Invoke κ σ ε) moment error after,
      (Run.sync invoke router).exec moment = (.ok (.error error), after) →
        Run.FailsAt invoke router error moment after) ∧
    ∀ (program : Program κ σ ε α) depth moment, (program.run host depth moment).1 ≠ .error .exhausted →
      ∃ events, (program.run host depth moment).2.journal = events ++ moment.journal ∧
        ∀ later other error earlier, events = later ++ .syncFailed other error :: earlier →
          ∃ entry, .changed entry ∈ earlier := by
  refine ⟨fun hlistens huntaken error hresult => ?_, fun later error earlier hjournal => ?_,
    fun invoke moment error after => Run.failsAt_of_sync, fun program depth moment hends => ?_⟩
  · rw [h.currentAt router r hrouter hlistens] at hresult
    have hkept : world.syncError router = some error := h.reportsAt router r hrouter hlistens huntaken error hresult
    refine ⟨world.takeError router, ?_, (world.takeError router).takeError router, ?_⟩
    · rw [Run.exec_takeSyncError, hkept]
    · rw [Run.exec_takeSyncError, World.syncError_takeError]
  · have hanswered := (h.accounts router).2
    rw [hjournal] at hanswered
    exact exists_of_lastError_eq_some hanswered.answer_eq.symm
  · obtain ⟨events, hjournal, hprompted⟩ := Run.lasting_prompts.run host depth program hends
    refine ⟨events, hjournal, fun later other error earlier hevents => ?_⟩
    rw [hevents] at hprompted
    exact hprompted.changed

/-- Two patterns that match the same path. -/
def tiedTree : RouteTree :=
  .leaf "home" homePattern (.leaf "again" { homePattern with serial := 1 } .nil)

/-- A host with a callback that goes to the path of both patterns when it runs first. -/
def tieHost : Host Unit Bool Unit where
  respond _ _ := .inspect fun world =>
    if world.memory then .done false
    else .remember (fun _ => true) (.ask (.commit .push { path := "/home" } "/home") fun _ => .done false)
  refusal _ := none
  join _ path := .ok ⟨"o", path, path, "", ""⟩

/-- Opens a router with a location observer, and has the history go elsewhere. -/
def openTie : Program Unit Bool Unit Unit :=
  .ask (.openRouter tiedTree) fun _ => .ask (.subscribe (.locations 0) ()) fun _ =>
    .ask (.commit .push { path := "/start" } "/start") fun _ => .done ()

/-- The start of the session, elsewhere. -/
def tieStart : World Unit Bool Unit where
  history := .single ⟨"o", "/", "/", "", ""⟩
  memory := false

/-- The session at the tie, after both changes. -/
def tieSession : World Unit Bool Unit :=
  (openTie.run tieHost 2 tieStart).2

private theorem reached_tieSession : Reached tieHost tieSession :=
  .run (.start _ false) 2 openTie (Stop.ne_exhausted_of_isOk (by decide +kernel))

/-- The reconciliation for the first change comes upon the tie to which the observer went on, after the one for that
second change has done so. -/
theorem tieSession_keeps_ambiguity :
    tieSession.journal.countP (fun | .syncFailed .. => true | _ => false) = 2 ∧
    ∃ r error taken after, tieSession.routers[0]? = some r ∧
      r.tree.resolve r.location.value.pathname = .error error ∧
      (Run.takeSyncError 0).exec tieSession = (.ok (some error), taken) ∧
      (Run.takeSyncError 0).exec taken = (.ok none, after) := by
  obtain ⟨r, hrouter⟩ : ∃ r, tieSession.routers[0]? = some r := Option.isSome_iff_exists.1 (by decide +kernel)
  have hall : tieSession.routers.all (fun r =>
      r.subscription.isSome && !(r.tree.resolve r.location.value.pathname).isOk) = true := by decide +kernel
  obtain ⟨hlistens, htied⟩ := Bool.and_eq_true_iff.1 (List.all_eq_true.1 hall r (List.mem_of_getElem? hrouter))
  have hlistens : r.subscription ≠ none := Option.isSome_iff_ne_none.1 hlistens
  obtain ⟨error, hresult⟩ : ∃ error, r.tree.resolve r.location.value.pathname = .error error := by
    rcases hresult : r.tree.resolve r.location.value.pathname with error | route
    · exact ⟨error, rfl⟩
    · rw [hresult] at htied
      cases htied
  have huntaken : (sinceChange tieSession.journal).all (fun | .errorTaken .. => false | _ => true) = true := by
    decide +kernel
  have huntaken (answer : Option RouteError) : .errorTaken 0 answer ∉ sinceChange tieSession.journal :=
    fun htaken => absurd (List.all_eq_true.1 huntaken _ htaken) (by simp)
  obtain ⟨hkept, -⟩ := reached_tieSession.ambiguity_is_kept (α := Unit) hrouter
  obtain ⟨taken, hfirst, after, hsecond⟩ := hkept hlistens huntaken error hresult
  exact ⟨by decide +kernel, r, error, taken, after, hrouter, hresult, hfirst, hsecond⟩

end PageRouter
