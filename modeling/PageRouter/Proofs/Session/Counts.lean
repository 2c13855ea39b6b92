import PageRouter.Proofs.Session.Gains
import PageRouter.Proofs.Session.Reached

namespace PageRouter

variable {κ σ ε : Type}

namespace Event

/-- Calls for a router to be reconciled. -/
def calls (router : RouterId) (event : Event ε) : Int :=
  event.isChange.toInt + (event.isSyncOf router).toInt

/-- Runs of a location observer, less the calls for them: one for every change of the history, and one for every
reconciliation that is asked for. -/
def locationBalance (router : RouterId) (id : Nat) (event : Event ε) : Int :=
  (event.isRun (.locations router) id).toInt - event.calls router

/-- Runs of a route observer, less the replacements that call for them. -/
def routeBalance (router : RouterId) (id : Nat) (event : Event ε) : Int :=
  (event.isRun (.routes router) id).toInt - (event.isReplacementOf router).toInt

/-- Calls for a router to be reconciled, less the replacements of its route. -/
def slack (router : RouterId) (event : Event ε) : Int :=
  event.calls router - (event.isReplacementOf router).toInt

private theorem toInt_decide_eq (router other : RouterId) :
    (decide (other = router)).toInt = Run.share router 1 other := by
  by_cases hother : other = router <;> simp [Run.share, hother]

/-- A reconciliation that is asked for is a call for its own router. -/
theorem calls_syncAsked (router other : RouterId) :
    (syncAsked other : Event ε).calls router = Run.share router 1 other := by
  rw [← toInt_decide_eq]
  exact Int.zero_add _

private theorem toInt_isReplacementOf_routeReplaced (router other : RouterId) (before after : Option (Stamped Match)) :
    ((routeReplaced other before after : Event ε).isReplacementOf router).toInt = Run.share router 1 other := by
  rw [← toInt_decide_eq]
  by_cases hother : other = router <;> simp [isReplacementOf, replacement?, hother]

/-- A location observer that runs counts for itself alone. -/
theorem locationBalance_ran (router other : RouterId) (pass id id' : Nat) (sight : Option Sight) :
    (ran pass (.locations other) id' sight : Event ε).locationBalance router id =
      if other = router ∧ id' = id then 1 else 0 := by
  by_cases hrouter : other = router <;> by_cases hid : id' = id
  all_goals simp [locationBalance, calls, isRun, isChange, isSyncOf, hrouter, hid]

/-- A route observer that runs counts for itself alone. -/
theorem routeBalance_ran (router other : RouterId) (pass id id' : Nat) (sight : Option Sight) :
    (ran pass (.routes other) id' sight : Event ε).routeBalance router id =
      if other = router ∧ id' = id then 1 else 0 := by
  by_cases hrouter : other = router <;> by_cases hid : id' = id
  all_goals simp [routeBalance, isRun, isReplacementOf, replacement?, hrouter, hid]

private theorem locationBalance_syncAsked (router other : RouterId) (id : Nat) :
    (syncAsked other : Event ε).locationBalance router id = -Run.share router 1 other := by
  rw [← calls_syncAsked (ε := ε)]
  exact Int.zero_sub _

private theorem routeBalance_routeReplaced (router other : RouterId) (id : Nat)
    (before after : Option (Stamped Match)) :
    (routeReplaced other before after : Event ε).routeBalance router id = -Run.share router 1 other := by
  rw [← toInt_isReplacementOf_routeReplaced (ε := ε) router other before after]
  exact Int.zero_sub _

private theorem slack_syncAsked (router other : RouterId) :
    (syncAsked other : Event ε).slack router = Run.share router 1 other := by
  rw [← calls_syncAsked (ε := ε)]
  exact Int.sub_zero _

/-- A replacement uses up a call for its own router. -/
theorem slack_routeReplaced (router other : RouterId) (before after : Option (Stamped Match)) :
    (routeReplaced other before after : Event ε).slack router = Run.share router (-1) other := by
  rw [← Run.neg_share, ← toInt_isReplacementOf_routeReplaced (ε := ε) router other before after]
  exact Int.zero_sub _

section Quiet

variable {router : RouterId} {id : Nat} (event : Event ε) (h : event.IsQuiet)

include h

/-- Quiet events are no calls. -/
theorem calls_of_isQuiet : event.calls router = 0 := by
  simp [calls, h.isChange, h.isSyncOf]

private theorem locationBalance_of_isQuiet : event.locationBalance router id = 0 := by
  have hchannel : ¬(Channel.locations router).IsMinor := fun hminor => hminor
  have hrun : event.isRun (.locations router) id = false := h.isRun hchannel id
  simp [locationBalance, hrun, calls_of_isQuiet event h]

private theorem routeBalance_of_isQuiet : event.routeBalance router id = 0 := by
  have hchannel : ¬(Channel.routes router).IsMinor := fun hminor => hminor
  have hrun : event.isRun (.routes router) id = false := h.isRun hchannel id
  simp [routeBalance, hrun, h.isReplacementOf]

private theorem slack_of_isQuiet : event.slack router = 0 := by
  simp [slack, h.isReplacementOf, calls_of_isQuiet event h]

end Quiet

end Event

section Tallies

variable (router : RouterId) (id : Nat) (events : List (Event ε))

/-- Calls are changes of the history and reconciliations that are asked for. -/
theorem tally_calls :
    tally (Event.calls router) events = events.countP (·.isChange) + events.countP (·.isSyncOf router) := by
  rw [← tally_toInt, ← tally_toInt, ← tally_add]
  rfl

/-- A location observer is even if it ran as often as it was called for. -/
theorem tally_locationBalance :
    tally (Event.locationBalance router id) events = events.countP (·.isRun (.locations router) id) -
      (events.countP (·.isChange) + events.countP (·.isSyncOf router)) := by
  rw [← tally_calls, ← tally_toInt, ← tally_sub]
  rfl

/-- A route observer is even if it ran as often as its route was replaced. -/
theorem tally_routeBalance :
    tally (Event.routeBalance router id) events =
      events.countP (·.isRun (.routes router) id) - (replacements router events).length := by
  rw [length_replacements, ← tally_toInt, ← tally_toInt, ← tally_sub]
  rfl

private theorem tally_slack :
    tally (Event.slack router) events = events.countP (·.isChange) + events.countP (·.isSyncOf router) -
      (replacements router events).length := by
  rw [length_replacements, ← tally_calls, ← tally_toInt, ← tally_sub]
  rfl

end Tallies

namespace Run

section LocationLedger

variable {router : RouterId} {id : Nat} {invoke : Invoke κ σ ε}

/-- What the journal gains in runs of a location observer that nothing has called for, while the observer is
registered with a router that listens. -/
abbrev LocationGains (router : RouterId) (id : Nat) : Int → World κ σ ε → World κ σ ε → Prop :=
  fun amount => Along (Gains (· = ·) (World.Watches (·.locationObservers) router id)
    (Event.locationBalance router id) amount)

private theorem accrues_locationGains (router : RouterId) (id : Nat) :
    Accrues (Gains (κ := κ) (σ := σ) (ε := ε) (· = ·) (World.Watches (·.locationObservers) router id)
      (Event.locationBalance router id)) :=
  accrues_gains comparison_eq (convex_watches Router.locationObservers_observers) Event.locationBalance_of_isQuiet

/-- A reconciliation runs each location observer of its router once. -/
theorem locationGains_sync
    (hinvoke : ∀ callback told, Within (LocationGains router id 0) (invoke callback told)) (other : RouterId) :
    Within (LocationGains router id (share router 1 other)) (sync invoke other) := by
  have hK : Convex (World.Watches (·.locationObservers) router id : World κ σ ε → Prop) :=
    convex_watches Router.locationObservers_observers
  have htold : Within (LocationGains router id (share router 1 other))
      (tell invoke .locations (·.locationObservers) other) :=
    gains_tell_watched Router.locationObservers_observers Event.locationBalance_of_isQuiet (by simp)
      (fun pass id' => Event.locationBalance_ran router other pass id id') hinvoke
  have hroutes : Within (LocationGains router id 0) (tell invoke .routes (·.routeObservers) other) :=
    gains_tell comparison_eq hK Event.locationBalance_of_isQuiet hinvoke nofun fun _ _ _ => rfl
  have hdecided : Within (LocationGains router id 0) (rematch invoke other) :=
    gains_rematch comparison_eq hK Event.locationBalance_of_isQuiet (fun _ _ => rfl) hroutes (fun h => h) rfl
  have hsync := gains_sync comparison_eq hK Event.locationBalance_of_isQuiet htold hdecided
  rwa [add_zero] at hsync

/-- The runs of a location observer are owed to changes of the history and to requests to reconcile. -/
theorem locationLedger (router : RouterId) (id : Nat) :
    Ledger router 1 (LocationGains router id : Int → World κ σ ε → World κ σ ε → Prop) :=
  { (accrues_locationGains router id).graded with
    minor := (accrues_locationGains router id).tolerant.minor
    changed := along_gains_changed comparison_eq fun _ => rfl
    asked := fun world other => by
      rw [← Event.locationBalance_syncAsked (ε := ε) router other id]
      exact along_gains_record comparison_eq world _
    sync := locationGains_sync
    gone := fun {world} hgone => (advance.refl world).along fun hsound hwatches => by
      obtain ⟨r, hrouter, hlistens, -⟩ := hwatches
      exact absurd (hsound.subscription_of_not_held hrouter hgone) hlistens
    balanced := fun hgains => hgains.mono fun hsound hgains hwatches hwatches' => by
      have hwatched := hwatches
      obtain ⟨r, hrouter, hlistens, -⟩ := hwatched
      obtain ⟨subscription, hsubscription⟩ := Option.ne_none_iff_exists'.1 hlistens
      rw [sum_share_of_listens hsound hrouter hsubscription] at hgains
      exact hgains hwatches hwatches' }

end LocationLedger
section RouteLedger

variable {router : RouterId} {id : Nat} {invoke : Invoke κ σ ε}

/-- What the journal gains in runs of a route observer that no replacement has called for, while the observer is
registered with a router that listens. -/
abbrev RouteGains (router : RouterId) (id : Nat) : Int → World κ σ ε → World κ σ ε → Prop :=
  fun amount => Along (Gains (· = ·) (World.Watches (·.routeObservers) router id)
    (Event.routeBalance router id) amount)

private theorem accrues_routeGains (router : RouterId) (id : Nat) :
    Accrues (Gains (κ := κ) (σ := σ) (ε := ε) (· = ·) (World.Watches (·.routeObservers) router id)
      (Event.routeBalance router id)) :=
  accrues_gains comparison_eq (convex_watches Router.routeObservers_observers) Event.routeBalance_of_isQuiet

/-- A reconciliation runs the route observers of its router as often as it replaces the route, which is once at most.
-/
theorem routeGains_sync
    (hinvoke : ∀ callback told, Within (RouteGains router id 0) (invoke callback told)) (other : RouterId) :
    Within (RouteGains router id 0) (sync invoke other) := by
  have hK : Convex (World.Watches (·.routeObservers) router id : World κ σ ε → Prop) :=
    convex_watches Router.routeObservers_observers
  have htold : Within (RouteGains router id 0) (tell invoke .locations (·.locationObservers) other) :=
    gains_tell comparison_eq hK Event.routeBalance_of_isQuiet hinvoke nofun fun _ _ _ => rfl
  have hroutes : Within (RouteGains router id (share router 1 other))
      (tell invoke .routes (·.routeObservers) other) :=
    gains_tell_watched Router.routeObservers_observers Event.routeBalance_of_isQuiet (by simp)
      (fun pass id' => Event.routeBalance_ran router other pass id id') hinvoke
  have hdecided : Within (RouteGains router id 0) (rematch invoke other) :=
    gains_rematch comparison_eq hK Event.routeBalance_of_isQuiet (Event.routeBalance_routeReplaced router other id)
      hroutes (fun h => h) (Int.add_left_neg _)
  exact gains_sync comparison_eq hK Event.routeBalance_of_isQuiet htold hdecided

/-- The runs of a route observer are owed to nothing but replacements. -/
theorem routeLedger (router : RouterId) (id : Nat) :
    Ledger router 0 (RouteGains router id : Int → World κ σ ε → World κ σ ε → Prop) :=
  { (accrues_routeGains router id).graded with
    minor := (accrues_routeGains router id).tolerant.minor
    changed := along_gains_changed comparison_eq fun _ => rfl
    asked := fun world other => by
      rw [share_zero]
      exact along_gains_record comparison_eq world _
    sync := fun hinvoke other => by
      rw [share_zero]
      exact routeGains_sync hinvoke other
    gone := fun _ => (accrues_routeGains router id).graded.zero _
    balanced := fun {world after} hgains => hgains.mono fun hsound hgains => by
      rcases sum_share_cases hsound router 0 with hsum | hsum
      all_goals
        rw [hsum] at hgains
        exact hgains }

end RouteLedger

section Slack

variable {router : RouterId} {invoke : Invoke κ σ ε}

/-- What the journal gains at least in calls for a router to be reconciled that no replacement has used. -/
abbrev SlackGains (router : RouterId) : Int → World κ σ ε → World κ σ ε → Prop :=
  fun amount => Along (Gains (· ≤ ·) (fun _ => True) (Event.slack router) amount)

private theorem accrues_slackGains (router : RouterId) :
    Accrues (Gains (κ := κ) (σ := σ) (ε := ε) (· ≤ ·) (fun _ => True) (Event.slack router)) :=
  accrues_gains comparison_le (fun _ _ _ _ _ => trivial) Event.slack_of_isQuiet

/-- A reconciliation uses up one call at most. -/
theorem slackGains_sync
    (hinvoke : ∀ callback told, Within (SlackGains router 0) (invoke callback told)) (other : RouterId) :
    Within (SlackGains router (share router (-1) other)) (sync invoke other) := by
  have hK : Convex (fun _ : World κ σ ε => True) := fun _ _ _ _ _ => trivial
  have htold : Within (SlackGains router 0) (tell invoke .locations (·.locationObservers) other) :=
    gains_tell comparison_le hK Event.slack_of_isQuiet hinvoke nofun fun _ _ _ => rfl
  have hroutes : Within (SlackGains router 0) (tell invoke .routes (·.routeObservers) other) :=
    gains_tell comparison_le hK Event.slack_of_isQuiet hinvoke nofun fun _ _ _ => rfl
  have hdecided : Within (SlackGains router (share router (-1) other)) (rematch invoke other) := by
    refine gains_rematch comparison_le hK Event.slack_of_isQuiet (Event.slack_routeReplaced router other)
      hroutes ?_ ?_
    · refine fun h => h.mono fun _ hgains hbefore hafter => ?_
      -- A reconciliation may use its call for a replacement, and need not.
      have hless : share router (-1) other ≤ 0 := by
        rw [share]
        split <;> omega
      exact Int.le_trans (Int.add_le_add_left hless _) (hgains hbefore hafter)
    · exact add_zero _
  have hsync := gains_sync comparison_le hK Event.slack_of_isQuiet htold hdecided
  rwa [zero_add] at hsync

/-- A route is replaced at most once for every change of the history and every request to reconcile. -/
theorem slackLedger (router : RouterId) :
    Ledger router (-1) (SlackGains router : Int → World κ σ ε → World κ σ ε → Prop) :=
  { (accrues_slackGains router).graded with
    minor := (accrues_slackGains router).tolerant.minor
    changed := along_gains_changed comparison_le fun _ => rfl
    asked := fun world other => by
      rw [neg_share, Int.neg_neg, ← Event.slack_syncAsked (ε := ε)]
      exact along_gains_record comparison_le world _
    sync := slackGains_sync
    gone := fun {world} _ => (advance.refl world).along fun _ _ _ => Int.sub_le_self _ (by decide)
    balanced := fun {world after} hgains => hgains.mono fun hsound hgains hbefore hafter => by
      refine Int.le_trans (Int.add_le_add_left ?_ _) (hgains hbefore hafter)
      rcases sum_share_cases hsound router (-1) with hsum | hsum <;> rw [hsum] <;> decide }

end Slack

end Run

/-- A program that asks nothing of the session. -/
def Program.IsPassive {α : Type} : Program κ σ ε α → Prop
  | .done _ | .panic _ => True
  | .inspect next => ∀ world, (next world).IsPassive
  | .remember _ next | .note _ next => next.IsPassive
  | .ask _ _ => False

/-- A program that is one operation. -/
inductive Program.IsOperation : {α : Type} → Program κ σ ε α → Prop
  | request {reply : Reply} (request : Request κ reply) : IsOperation (.request request)

namespace Run

section Operations

variable {router : RouterId} {host : Host κ σ ε} {invoke : Invoke κ σ ε}

/-- What the journal gains at most in calls for a router to be reconciled. -/
abbrev CallGains (router : RouterId) : Int → World κ σ ε → World κ σ ε → Prop :=
  fun amount => Along (Gains (· ≥ ·) (fun _ => True) (Event.calls router) amount)

private theorem accrues_callGains (router : RouterId) :
    Accrues (Gains (κ := κ) (σ := σ) (ε := ε) (· ≥ ·) (fun _ => True) (Event.calls router)) :=
  accrues_gains comparison_ge (fun _ _ _ _ _ => trivial) Event.calls_of_isQuiet

private theorem CallGains.mono {m n : Int} (hle : m ≤ n) {world after : World κ σ ε}
    (h : CallGains router m world after) : CallGains router n world after :=
  Along.mono h fun _ hgains hbefore hafter =>
    Int.le_trans (hgains hbefore hafter) (Int.add_le_add_left hle _)

private theorem tolerant_callGains (router : RouterId) :
    Tolerant (CallGains router 0 : World κ σ ε → World κ σ ε → Prop) (CallGains router 1) :=
  { (accrues_callGains router).graded.spans 1 with
    widen := CallGains.mono (by decide)
    minor := (accrues_callGains router).tolerant.minor }

private theorem callGains_sync (hinvoke : ∀ callback told, Within (CallGains router 0) (invoke callback told))
    (other : RouterId) : Within (CallGains router 0) (sync invoke other) := by
  have hK : Convex (fun _ : World κ σ ε => True) := fun _ _ _ _ _ => trivial
  have htold : Within (CallGains router 0) (tell invoke .locations (·.locationObservers) other) :=
    gains_tell comparison_ge hK Event.calls_of_isQuiet hinvoke nofun fun _ _ _ => rfl
  have hroutes : Within (CallGains router 0) (tell invoke .routes (·.routeObservers) other) :=
    gains_tell comparison_ge hK Event.calls_of_isQuiet hinvoke nofun fun _ _ _ => rfl
  have hdecided : Within (CallGains router 0) (rematch invoke other) :=
    gains_rematch comparison_ge hK Event.calls_of_isQuiet (fun _ _ => rfl) hroutes (fun h => h) rfl
  exact gains_sync comparison_ge hK Event.calls_of_isQuiet htold hdecided

/-- A change that is announced is one call. -/
theorem callGains_announce (hinvoke : ∀ callback told, Within (CallGains router 0) (invoke callback told))
    (history : History) : Within (CallGains router 1) (announce invoke history) := by
  have hgraded := (accrues_callGains (κ := κ) (σ := σ) (ε := ε) router).graded
  have hsteady := (accrues_callGains (κ := κ) (σ := σ) (ε := ε) router).steady
  have hfollow (other : RouterId) : Within (CallGains router 0) (follow invoke other) :=
    within_follow hsteady hsteady.toSpans
      (fun world _ error _ => (tolerant_callGains router).minor (.fail world other error))
      (fun world _ => hsteady.refl world) (callGains_sync hinvoke other)
  intro world hends
  have htold := within_notify_changes hsteady.toChains.graded hsteady hinvoke
    ((tolerant_callGains router).startPass .changes) (fun _ => ()) hfollow world.changes
  exact hgraded.add (along_gains_changed comparison_ge (fun _ => rfl) world history) (htold _ hends)

/-- A reconciliation that is asked for is one call. -/
theorem callGains_syncAsked (hinvoke : ∀ callback told, Within (CallGains router 0) (invoke callback told))
    (other : RouterId) : Within (CallGains router 1) (do record (.syncAsked other); sync invoke other) := by
  have hgraded := (accrues_callGains (κ := κ) (σ := σ) (ε := ε) router).graded
  intro world hends
  have hasked : CallGains router (share router 1 other) world (world.record (.syncAsked other)) :=
    Event.calls_syncAsked (ε := ε) router other ▸ along_gains_record comparison_ge world _
  have hboth := hgraded.add hasked (callGains_sync hinvoke other _ hends)
  refine CallGains.mono ?_ hboth
  rw [share]
  split <;> decide

private theorem within_execute_of_isPassive {R S : World κ σ ε → World κ σ ε → Prop} (h : Tolerant R S) {α : Type}
    {program : Program κ σ ε α} (hpassive : program.IsPassive) : Within R (execute host invoke program) := by
  induction program with
  | done result => exact within_pure h.toChains result
  | panic payload => exact within_throw h.toChains _
  | inspect next ih =>
    refine within_get_bind fun world => within_bind h.toChains (within_modify fun _ => ?_) fun _ => ?_
    · exact h.minor (.record _ trivial)
    · exact ih world (hpassive world)
  | remember change next ih =>
    refine within_bind h.toChains (within_modify fun _ => ?_) fun _ => ih hpassive
    exact h.minor (.elsewhere rfl rfl rfl rfl (fun _ hid => hid) (.of_handles_eq rfl rfl))
  | note text next ih =>
    refine within_bind h.toChains (within_modify fun world => ?_) fun _ => ih hpassive
    exact h.minor (.record world trivial)
  | ask request next => exact hpassive.elim

/-- One operation is one occasion at most, if callbacks do nothing in turn. -/
theorem callGains_operation {α : Type} {program : Program κ σ ε α} (hoperation : program.IsOperation)
    (hpassive : ∀ callback told, (host.respond callback told).IsPassive) (depth : Nat) :
    Within (CallGains router 1) (execute host (Run.invoke host depth) program) := by
  have htolerant := tolerant_callGains (κ := κ) (σ := σ) (ε := ε) router
  have hinvoke (callback : κ) (told : Bool) : Within (CallGains router 0) (Run.invoke host depth callback told) := by
    cases depth with
    | zero => exact within_throw htolerant.toChains _
    | succ depth => exact within_execute_of_isPassive htolerant (hpassive callback told)
  cases hoperation with
  | request request =>
    have hrequest : Within (CallGains router 1) (fulfil host (Run.invoke host depth) request) :=
      within_fulfil htolerant.steady hinvoke (fun world history _ => callGains_announce hinvoke history world)
        (callGains_syncAsked hinvoke) request
    exact within_bind_after htolerant.toSpans hrequest fun value => within_pure htolerant.toChains value

end Operations

end Run

namespace Reached

variable {host : Host κ σ ε} {world : World κ σ ε} {α : Type} {program : Program κ σ ε α} {depth : Nat}
  {router : RouterId} {r r' : Router κ} {events : List (Event ε)}

section Runs

variable (h : Reached host world) (hends : (program.run host depth world).1 ≠ .error .exhausted)
  (hbefore : world.routers[router]? = some r)
  (hafter : (program.run host depth world).2.routers[router]? = some r')
  (hjournal : (program.run host depth world).2.journal = events ++ world.journal)

include h hends hbefore hafter hjournal

omit hjournal in
/-- A router that is not detached in a run listens before and after it. -/
theorem listens (hattached : .detached router ∉ (program.run host depth world).2.journal) :
    r.subscription ≠ none ∧ r'.subscription ≠ none := by
  have hlistens' : r'.subscription ≠ none := fun hgone =>
    hattached ((h.run depth program hends).sound.detached router r' hafter hgone)
  obtain ⟨_, hsame, hlater⟩ := (Run.advance.lasting.run host depth program hends).2 router r hbefore
  cases hafter.symm.trans hsame
  exact ⟨hlater.subscription hlistens', hlistens'⟩

/-- A location observer that is registered before and after a run has run as often as it was called for. -/
theorem count_locations (hlistens : r.subscription ≠ none ∧ r'.subscription ≠ none) {id : Nat}
    (hid : id ∈ r.locationObservers.ids) (hid' : id ∈ r'.locationObservers.ids) :
    events.countP (·.isRun (.locations router) id) =
      events.countP (·.isChange) + events.countP (·.isSyncOf router) := by
  have hgains := ((Run.locationLedger router id).lasting.run host depth program hends h.sound).2
  have hbalance : 0 = tally (Event.locationBalance router id) events :=
    hgains.events Run.comparison_eq hjournal ⟨r, hbefore, hlistens.1, hid⟩ ⟨r', hafter, hlistens.2, hid'⟩
  rw [tally_locationBalance] at hbalance
  omega

/-- A route observer that is registered before and after a run has run as often as the route was replaced. -/
theorem count_routes (hlistens : r.subscription ≠ none ∧ r'.subscription ≠ none) {id : Nat}
    (hid : id ∈ r.routeObservers.ids) (hid' : id ∈ r'.routeObservers.ids) :
    events.countP (·.isRun (.routes router) id) = (replacements router events).length := by
  have hgains := ((Run.routeLedger router id).lasting.run host depth program hends h.sound).2
  have hbalance : 0 = tally (Event.routeBalance router id) events :=
    hgains.events Run.comparison_eq hjournal ⟨r, hbefore, hlistens.1, hid⟩ ⟨r', hafter, hlistens.2, hid'⟩
  rw [tally_routeBalance] at hbalance
  omega

omit hbefore hafter in
/-- A route is not replaced more often than its router was called for. -/
theorem length_replacements_le :
    (replacements router events).length ≤ events.countP (·.isChange) + events.countP (·.isSyncOf router) := by
  have hgains := ((Run.slackLedger router).lasting.run host depth program hends h.sound).2
  have hbalance : 0 ≤ tally (Event.slack router) events :=
    hgains.events Run.comparison_le hjournal trivial trivial
  rw [tally_slack] at hbalance
  omega

omit hbefore hafter in
/-- One operation is one call at most, if callbacks do nothing in turn. -/
theorem occasions_of_isOperation (hoperation : program.IsOperation)
    (hpassive : ∀ callback told, (host.respond callback told).IsPassive) :
    events.countP (·.isChange) + events.countP (·.isSyncOf router) ≤ 1 := by
  have hgains : Run.CallGains router 1 world (program.run host depth world).2 :=
    Run.callGains_operation hoperation hpassive depth world hends
  have hbalance : 1 ≥ tally (Event.calls router) events :=
    (hgains h.sound).2.events Run.comparison_ge hjournal trivial trivial
  rw [tally_calls] at hbalance
  omega

end Runs

end Reached

private theorem zero_mem_ids {world : World Unit Bool Unit}
    (hids : world.routers.all (fun r => r.locationObservers.ids == [0]) = true) {r : Router Unit}
    (hrouter : world.routers[0]? = some r) : 0 ∈ r.locationObservers.ids := by
  have hid := List.all_eq_true.1 hids r (List.mem_of_getElem? hrouter)
  rw [eq_of_beq hid]
  exact List.mem_cons_self

end PageRouter
