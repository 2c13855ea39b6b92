import PageRouter.Proofs.Session.Asking

namespace PageRouter

variable {κ σ ε α : Type}

/-- The callbacks that were run in a pass, in order. -/
def World.runsIn (world : World κ σ ε) (pass : Nat) : List (Channel × Nat) :=
  (world.runs.reverse.filter fun run => run.1 = pass).map Prod.snd

/-- Where no callback runs, none runs in a pass. -/
theorem World.runsIn_of_runs_eq {world after : World κ σ ε} (hruns : after.runs = world.runs) (pass : Nat) :
    after.runsIn pass = world.runsIn pass := by
  rw [runsIn, runsIn, hruns]

/-- A callback that is about to run is the last one of its pass so far. -/
theorem World.runsIn_ran (world : World κ σ ε) (pass : Nat) (channel : Channel) (id : Nat) (sight : Option Sight) :
    (world.record (.ran pass channel id sight)).runsIn pass = world.runsIn pass ++ [(channel, id)] := by
  have hruns : (world.record (.ran pass channel id sight)).runs = (pass, channel, id) :: world.runs := rfl
  have hlast : [(pass, channel, id)].filter (fun run => run.1 = pass) = [(pass, channel, id)] :=
    List.filter_cons_of_pos (decide_eq_true rfl)
  rw [runsIn, hruns, List.reverse_cons, List.filter_append, List.map_append, hlast]
  rfl

namespace Run

variable {first : Nat}

/-- Between two sessions, callbacks run only in passes that start in between, if those are numbered from `first` on.
Every pass has a number that no pass before it had, so that what is written into the journal about the callbacks of
one pass is told apart from what is written about passes that start in the midst of it. -/
def Renews (first : Nat) (world after : World κ σ ε) : Prop :=
  first ≤ world.nextPass → first ≤ after.nextPass ∧
    ∃ events, after.journal = events ++ world.journal ∧ ∀ run ∈ events.filterMap Event.run?, first ≤ run.1

/-- Passes that start in one part of a run are numbered beyond those of the part before. -/
theorem chains_renews (first : Nat) : Chains (Renews first : World κ σ ε → World κ σ ε → Prop) where
  refl _ hfirst := ⟨hfirst, [], rfl, by simp⟩
  trans hbefore hafter hfirst := by
    obtain ⟨hmiddle, events, hevents, hruns⟩ := hbefore hfirst
    obtain ⟨hlast, later, hlater, hlaterRuns⟩ := hafter hmiddle
    refine ⟨hlast, later ++ events, by rw [hlater, hevents, List.append_assoc], ?_⟩
    rw [List.filterMap_append, List.forall_mem_append]
    exact ⟨hlaterRuns, hruns⟩

section Steps

variable {world after : World κ σ ε}

/-- Where no pass starts and no callback runs, there is nothing to be numbered. -/
theorem renews_of_runs_eq (hnextPass : after.nextPass = world.nextPass)
    (hjournal : ∃ events, after.journal = events ++ world.journal) (hruns : after.runs = world.runs) :
    Renews first world after := by
  obtain ⟨events, hevents⟩ := hjournal
  rw [World.runs, World.runs, hevents, List.filterMap_append, List.append_left_eq_self] at hruns
  refine fun hfirst => ⟨hnextPass ▸ hfirst, events, hevents, ?_⟩
  rw [hruns]
  exact fun run hrun => absurd hrun List.not_mem_nil

/-- A still change starts no pass and runs no callback. -/
theorem renews_of_still (hstill : Still world after) : Renews first world after := by
  obtain ⟨events, hjournal, -⟩ := hstill.events
  exact renews_of_runs_eq hstill.nextPass ⟨events, hjournal⟩ hstill.runs

private theorem renews_record (world : World κ σ ε) {event : Event ε} (hrun : event.run? = none) :
    Renews first world (world.record event) :=
  renews_of_runs_eq rfl ⟨[event], rfl⟩ (List.filterMap_cons_none hrun)

/-- A callback may run in a pass that has started in between. -/
theorem renews_ran {pass : Nat} (hpass : first ≤ pass) (channel : Channel) (id : Nat) (world : World κ σ ε) :
    Renews first world (world.record (.ran pass channel id (world.sightAt? channel))) := by
  refine fun hfirst => ⟨hfirst, [.ran pass channel id (world.sightAt? channel)], rfl, ?_⟩
  rintro run hrun
  rw [List.mem_singleton.1 hrun]
  exact hpass

/-- A pass that starts takes the next number. -/
theorem renews_withPass (world : World κ σ ε) (channel : Channel) : Renews first world (world.withPass channel) :=
  fun hfirst => ⟨Nat.le_succ_of_le hfirst, [.passStarted world.nextPass channel], rfl, by simp [Event.run?]⟩

/-- In a pass that started before, no callback runs. -/
theorem Renews.runsIn_eq (h : Renews first world after) (hfirst : first ≤ world.nextPass) {pass : Nat}
    (hpass : pass < first) : after.runsIn pass = world.runsIn pass := by
  obtain ⟨-, events, hjournal, hruns⟩ := h hfirst
  have hnone : (events.filterMap Event.run?).reverse.filter (fun run => run.1 = pass) = [] := by
    refine List.filter_eq_nil_iff.2 fun run hrun hsame => ?_
    have hlater := hruns run (List.mem_reverse.1 hrun)
    have hsame : run.1 = pass := by simpa using hsame
    omega
  rw [World.runsIn, World.runs, hjournal, List.filterMap_append, List.reverse_append, List.filter_append, hnone,
    List.append_nil]
  rfl

/-- A callback that runs in a pass and ends is the only one that ran in it meanwhile. -/
theorem runsIn_of_ran {pass id : Nat} {channel : Channel} {body : Run κ σ ε α} {result : Except Stop α}
    (hbody : Within (Renews (pass + 1)) body) (hpass : pass < world.nextPass)
    (hran : body.exec (world.record (.ran pass channel id (world.sightAt? channel))) = (result, after))
    (hends : result ≠ .error .exhausted) :
    pass < after.nextPass ∧ after.runsIn pass = world.runsIn pass ++ [(channel, id)] := by
  have hrenews := hbody (world.record (.ran pass channel id (world.sightAt? channel)))
  rw [Leads, hran] at hrenews
  refine ⟨(hrenews hends hpass).1, ?_⟩
  rw [(hrenews hends).runsIn_eq hpass (Nat.lt_succ_self pass), World.runsIn_ran]

private theorem renews_relocate (world : World κ σ ε) (router : RouterId) :
    Renews first world (world.relocate router) := by
  rw [World.relocate]
  split
  · exact (chains_renews first).refl world
  · dsimp only
    split
    · exact (chains_renews first).refl world
    · exact renews_of_runs_eq rfl ⟨[], rfl⟩ rfl

private theorem renews_replaceRoute (world : World κ σ ε) (router : RouterId) (route : Option Match) :
    Renews first world (world.replaceRoute router route) := by
  rw [World.replaceRoute]
  split
  · exact (chains_renews first).refl world
  · exact renews_of_runs_eq rfl ⟨[.routeReplaced router _ _], rfl⟩ rfl

end Steps

section Passes

private theorem unguarded_renews (first : Nat) : Unguarded (Renews first : World κ σ ε → World κ σ ε → Prop) where
  toChains := chains_renews first
  guarding _ _ _ := renews_of_runs_eq rfl ⟨[], rfl⟩ rfl
  unwound world _ := renews_record world rfl

/-- Observers run in their own pass and in those that they start. -/
theorem renews_runObservers {pass : Nat} (hpass : first ≤ pass) {channel : Channel} {run : α → Run κ σ ε Unit}
    (hrun : ∀ observer, Within (Renews first) (run observer)) (observers : List (Nat × α)) :
    Within (Renews first) (runObservers pass channel run observers) :=
  within_runObservers (chains_renews first).graded (fun _ => ()) (fun _ => ()) (fun _ world => renews_record world rfl)
    (renews_ran hpass channel) observers fun observer _ => hrun observer.2

/-- The number of a pass is the next one, which no pass had. -/
theorem renews_notify (channel : Channel) {run : α → Run κ σ ε Unit}
    (hrun : ∀ observer, Within (Renews first) (run observer)) (registry : Registry α) :
    Within (Renews first) (notify channel run registry) := by
  intro world hends hfirst
  have hpass := renews_runObservers hfirst hrun registry.entries (world.withPass channel) hends
  exact (chains_renews first).trans (renews_withPass world channel) hpass hfirst

/-- The same for a pass that asks. -/
theorem renews_askAll (channel : Channel) {ask : α → Run κ σ ε Bool}
    (hask : ∀ callback, Within (Renews first) (ask callback)) (registry : Registry α) :
    Within (Renews first) (askAll channel ask registry) := by
  intro world hends hfirst
  have hasked := (chains_renews first).composes.askUntilYes
    (fun id => within_modify (renews_ran hfirst channel id)) hask registry.entries (world.withPass channel) hends
  exact (chains_renews first).trans (renews_withPass world channel) hasked hfirst

/-- All that requests are made of renews the numbers, but for what changes the history and what routers show. -/
theorem handling_renews (first : Nat) : Handling fun _ => Leads (Renews first : World κ σ ε → World κ σ ε → Prop) where
  toComposes := (chains_renews first).composes
  still {_} {_} {_} {_} {_} hexec hstill := by
    rw [Leads, hexec]
    exact fun _ => renews_of_still hstill
  between hbefore hafter := within_between (chains_renews first).widens.toSpans
    (fun world => renews_of_still (hbefore world)) fun world => renews_of_still (hafter world)
  notify {channel} _ _ _ _ := renews_notify channel
  askAll {channel} _ _ _ _ := renews_askAll channel
  addBlocker := (unguarded_renews first).chaining.mending.addBlocker
  removeBlocker := (unguarded_renews first).chaining.mending.removeBlocker

private theorem playing_renews (first : Nat) :
    Playing fun _ => Leads (Renews first : World κ σ ε → World κ σ ε → Prop) where
  toHandling := handling_renews first
  of_throw := within_throw (chains_renews first)
  of_look world _ := renews_record world rfl

section Invoking

variable {invoke : Invoke κ σ ε} (hinvoke : ∀ callback told, Within (Renews first) (invoke callback told))

include hinvoke

private theorem renews_perform (callback : κ) : Within (Renews first) (perform invoke callback) :=
  (chains_renews first).composes.perform (hinvoke callback false)

/-- Telling the observers of a router is a pass of its own. -/
theorem renews_tell (channel : RouterId → Channel) (observers : Router κ → Registry κ) (router : RouterId) :
    Within (Renews first) (tell invoke channel observers router) := by
  refine within_get_bind fun world => ?_
  split
  · exact within_pure (chains_renews first) ()
  · exact renews_notify (channel router) (renews_perform hinvoke) _

private theorem renews_rematch (router : RouterId) : Within (Renews first) (rematch invoke router) := by
  have hchains := chains_renews (κ := κ) (σ := σ) (ε := ε) first
  refine within_rematch (fun world _ => hchains.refl world) (fun world _ _ _ _ => renews_record world rfl)
    (fun world _ _ _ _ _ => hchains.refl world) fun world _ route _ _ _ => ?_
  refine hchains.composes.bind (within_modify fun world => renews_replaceRoute world router route) (fun _ => ?_) world
  exact renews_tell hinvoke .routes (·.routeObservers) router

/-- A reconciliation runs observers in passes that it starts. -/
theorem renews_sync (router : RouterId) : Within (Renews first) (sync invoke router) := by
  refine within_bind (chains_renews first) (within_modify fun world => renews_relocate world router) fun _ => ?_
  refine within_bind (chains_renews first) (renews_tell hinvoke .locations (·.locationObservers) router) fun _ => ?_
  exact renews_rematch hinvoke router

private theorem renews_follow (router : RouterId) : Within (Renews first) (follow invoke router) := by
  refine within_get_bind fun world => ?_
  split
  · refine (handling_renews first).holdingRouter router (within_bind (chains_renews first)
      (renews_sync hinvoke router) fun result => ?_)
    split
    · exact within_pure (chains_renews first) ()
    · next error => exact within_modify fun world => renews_of_runs_eq rfl ⟨[.syncFailed router error], rfl⟩ rfl
  · exact within_pure (chains_renews first) ()

/-- A listener that is told of a change runs callbacks in passes that it starts. -/
theorem renews_hear (listener : Listener κ) : Within (Renews first) (hear invoke listener) := by
  cases listener with
  | host callback => exact renews_perform hinvoke callback
  | router router => exact renews_follow hinvoke router

private theorem renews_announce (history : History) : Within (Renews first) (announce invoke history) := by
  refine within_bind (chains_renews first) (within_modify fun _ => renews_of_runs_eq rfl ⟨[], rfl⟩ rfl) fun _ => ?_
  refine within_bind (chains_renews first) (within_modify fun world => renews_record world rfl) fun _ => ?_
  exact within_get_bind fun world => renews_notify .changes (renews_hear hinvoke) world.changes

/-- A request runs callbacks in passes that it starts. -/
theorem renews_fulfil {host : Host κ σ ε} {reply : Reply} (request : Request κ reply) :
    Within (Renews first) (fulfil host invoke request) := by
  refine (handling_renews first).serving.fulfil hinvoke (fun world history _ => renews_announce hinvoke history world)
    (fun router => ?_) request
  exact within_bind (chains_renews first) (within_modify fun world => renews_record world rfl) fun _ =>
    renews_sync hinvoke router

end Invoking

/-- Whatever a callback does, no other callback runs meanwhile in a pass that had started before. -/
theorem renews_invoke (host : Host κ σ ε) (depth : Nat) (callback : κ) (told : Bool) :
    Within (Renews first) (invoke host depth callback told) :=
  (playing_renews first).invoke (fun _ hinvoke => renews_fulfil hinvoke) depth callback told

end Passes

end Run

end PageRouter
