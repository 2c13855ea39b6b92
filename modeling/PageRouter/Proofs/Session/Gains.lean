import PageRouter.Proofs.Session.Journal
import PageRouter.Proofs.Session.Ledger

namespace PageRouter

variable {κ σ ε : Type}

namespace Run

/-- Ways to compare what a journal should weigh with what it weighs. -/
structure Comparison (cmp : Int → Int → Prop) : Prop where
  refl (a : Int) : cmp a a
  trans {a b c : Int} : cmp a b → cmp b c → cmp a c
  add {a b : Int} (c : Int) : cmp a b → cmp (a + c) (b + c)

theorem comparison_eq : Comparison (· = ·) :=
  ⟨fun _ => rfl, .trans, fun _ h => by rw [h]⟩

theorem comparison_le : Comparison (· ≤ ·) :=
  ⟨Int.le_refl, Int.le_trans, fun c h => Int.add_le_add_right h c⟩

theorem comparison_ge : Comparison (· ≥ ·) :=
  ⟨Int.le_refl, fun hab hbc => Int.le_trans hbc hab, fun c h => Int.add_le_add_right h c⟩

/-- What is the case before and after is the case in between. -/
def Convex (K : World κ σ ε → Prop) : Prop :=
  ∀ {first second third : World κ σ ε}, first.Sound → first.Later second → second.Later third →
    K first → K third → K second

/-- The journal gains a certain weight between two sessions, if something is the case at both that cannot come back
once it is lost. -/
def Gains (cmp : Int → Int → Prop) (K : World κ σ ε → Prop) (weight : Event ε → Int) (amount : Int)
    (world after : World κ σ ε) : Prop :=
  K world → K after → cmp (tally weight world.journal + amount) (tally weight after.journal)

section Gains

variable {cmp : Int → Int → Prop} (hcmp : Comparison cmp) {K : World κ σ ε → Prop} (hK : Convex K)
  {weight : Event ε → Int} (hquiet : ∀ event : Event ε, event.IsQuiet → weight event = 0)

include hcmp

/-- Events that go into the journal are weighed. -/
theorem gains_of_events {world after : World κ σ ε} {amount : Int} (events : List (Event ε))
    (hjournal : after.journal = events ++ world.journal) (hevents : tally weight events = amount) :
    Gains cmp K weight amount world after := by
  intro _ _
  rw [hjournal, tally_append, hevents, Int.add_comm]
  exact hcmp.refl _

omit hcmp in
/-- What the journal gains is what the new events weigh. -/
theorem Gains.events (hcmp : Comparison cmp) {world after : World κ σ ε} {amount : Int} {events : List (Event ε)}
    (h : Gains cmp K weight amount world after) (hjournal : after.journal = events ++ world.journal)
    (hbefore : K world) (hafter : K after) : cmp amount (tally weight events) := by
  have hgained := hcmp.add (-tally weight world.journal) (h hbefore hafter)
  rwa [hjournal, tally_append, Int.add_neg_cancel_right, Int.add_comm, Int.neg_add_cancel_left] at hgained

/-- A note gains its weight. -/
theorem along_gains_record (world : World κ σ ε) (event : Event ε) :
    Along (Gains cmp K weight (weight event)) world (world.record event) :=
  (advance_record world event).along fun _ => gains_of_events hcmp [event] rfl (by simp)

/-- A change of the history gains the weight of the note about it. -/
theorem along_gains_changed {amount : Int} (hchanged : ∀ entry, weight (.changed entry) = amount)
    (world : World κ σ ε) (history : History) :
    Along (Gains cmp K weight amount) world ({ world with history }.record (.changed history.current)) := by
  refine (advance_changed world history).along fun _ => ?_
  exact gains_of_events hcmp [.changed history.current] rfl (by simp [hchanged])

/-- A router that takes over a location gains nothing. -/
theorem along_gains_relocate (world : World κ σ ε) (router : RouterId) :
    Along (Gains cmp K weight 0) world (world.relocate router) :=
  (advance.relocate world router).along fun _ =>
    gains_of_events hcmp [] (world.journal_relocate router) rfl

/-- A route that is replaced gains the weight of the note about it. -/
theorem along_gains_replaceRoute {world : World κ σ ε} {router : RouterId} {r : Router κ}
    {route : Option Match} {amount : Int}
    (hreplaced : ∀ before after, weight (.routeReplaced router before after) = amount)
    (hrouter : world.routers[router]? = some r)
    (hdiffers : Match.sameRoute? (r.route.map (·.value)) route = false) :
    Along (Gains cmp K weight amount) world (world.replaceRoute router route) := by
  obtain ⟨stored, -, -, hjournal⟩ := World.getElem?_replaceRoute_self route hrouter
  refine (advance.replaceRoute hrouter hdiffers).along fun _ => ?_
  exact gains_of_events hcmp [.routeReplaced router r.route stored] hjournal (by simp [hreplaced])

include hK hquiet

/-- What is gained adds up, and minor changes gain nothing. -/
theorem accrues_gains : Accrues (Gains cmp K weight) where
  zero world _ _ := by
    rw [Int.add_zero]
    exact hcmp.refl _
  add hsound hlater hlater' hfirst hsecond hbefore hafter := by
    have hbetween := hK hsound hlater hlater' hbefore hafter
    rw [← Int.add_assoc]
    exact hcmp.trans (hcmp.add _ (hfirst hbefore hbetween)) (hsecond hbetween hafter)
  minor hminor := by
    obtain ⟨events, hjournal, hevents⟩ := hminor.journal
    exact gains_of_events hcmp events hjournal (tally_of_isQuiet hquiet hevents)

variable {invoke : Invoke κ σ ε}
  (hinvoke : ∀ callback told, Within (Along (Gains cmp K weight 0)) (invoke callback told))

include hinvoke

/-- A pass over observers gains what its notes weigh. -/
theorem gains_notify {channel : Channel} {noted : Nat → Int}
    (hnoted : ∀ pass id sight, weight (.ran pass channel id sight) = noted id) (registry : Registry κ) :
    Within (Along (Gains cmp K weight (registry.entries.map fun observer => noted observer.1).sum))
      (notify channel (perform invoke) registry) := by
  have haccrues := accrues_gains hcmp hK hquiet
  have hran (pass id : Nat) (world : World κ σ ε) : Along (Gains cmp K weight (noted id)) world
      (world.record (.ran pass channel id (world.sightAt? channel))) :=
    hnoted pass id (world.sightAt? channel) ▸ along_gains_record hcmp world _
  have hpass : Within (Along (Gains cmp K weight (registry.entries.map fun observer => noted observer.1 + 0).sum))
      (notify channel (perform invoke) registry) :=
    within_notify haccrues.graded haccrues.steady noted (fun _ => 0) (haccrues.tolerant.startPass channel) hran
      fun observer _ => within_perform haccrues.graded.chains (hinvoke observer.2 false)
  simpa only [add_zero] using hpass

/-- Telling observers gains nothing if the notes about them weigh nothing. -/
theorem gains_tell {channel : RouterId → Channel} {observers : Router κ → Registry κ} {router : RouterId}
    (hother : channel router ≠ .changes)
    (hran : ∀ pass id sight, weight (.ran pass (channel router) id sight) = 0) :
    Within (Along (Gains cmp K weight 0)) (tell invoke channel observers router) :=
  within_tell (accrues_gains hcmp hK hquiet).steady hother
    (fun pass id world => hran pass id (world.sightAt? (channel router)) ▸ along_gains_record hcmp world _)
    hinvoke

omit hinvoke in
/-- A route that is resolved again gains what a replacement weighs and what telling of it gains, or nothing. -/
theorem gains_rematch {router : RouterId} {replaced told total : Int}
    (hreplaced : ∀ before after, weight (.routeReplaced router before after) = replaced)
    (htold : Within (Along (Gains cmp K weight told)) (tell invoke .routes (·.routeObservers) router))
    (hnothing : ∀ {world after : World κ σ ε},
      Along (Gains cmp K weight 0) world after → Along (Gains cmp K weight total) world after)
    (htotal : replaced + told = total) :
    Within (Along (Gains cmp K weight total)) (rematch invoke router) := by
  have haccrues := accrues_gains hcmp hK hquiet
  have htied (world : World κ σ ε) (path : String) (templates : List String) :
      Along (Gains cmp K weight 0) world (world.record (.ambiguous path templates)) :=
    haccrues.tolerant.minor (.record world trivial)
  refine within_rematch (fun world _ => hnothing (haccrues.graded.zero world))
    (fun world _ templates _ _ => hnothing (htied world _ templates))
    (fun world _ _ _ _ _ => hnothing (haccrues.graded.zero world)) ?_
  intro world r route hrouter _ hdiffers
  subst htotal
  exact leads_bind_calm (calm_modify _) haccrues.graded.add
    (fun _ => along_gains_replaceRoute hcmp hreplaced hrouter hdiffers) fun _ => htold

omit hinvoke in
/-- A reconciliation gains what telling the location observers and resolving the location gain. -/
theorem gains_sync {router : RouterId} {told decided : Int}
    (htold : Within (Along (Gains cmp K weight told)) (tell invoke .locations (·.locationObservers) router))
    (hdecided : Within (Along (Gains cmp K weight decided)) (rematch invoke router)) :
    Within (Along (Gains cmp K weight (told + decided))) (sync invoke router) := by
  have hgraded := (accrues_gains hcmp hK hquiet).graded
  have hrest : Within (Along (Gains cmp K weight (told + decided)))
      (do tell invoke .locations (·.locationObservers) router; rematch invoke router) := fun world =>
    leads_bind_calm (calm_tell invoke _ _ router) hgraded.add (htold world) fun _ => hdecided
  exact fun world => leads_bind_calm (calm_modify _) (hgraded.spans _).before
    (fun _ => along_gains_relocate hcmp world router) fun _ => hrest

end Gains

end Run

/-- An observer is registered at a router that listens. -/
def World.Watches (observers : Router κ → Registry κ) (router : RouterId) (id : Nat) (world : World κ σ ε) : Prop :=
  ∃ r, world.routers[router]? = some r ∧ r.subscription ≠ none ∧ id ∈ (observers r).ids

/-- Observers whose ids are in order and are never used again. -/
structure Router.Observers (observers : Router κ → Registry κ) : Prop where
  later {r after : Router κ} : r.Later after → (observers r).Later (observers after)
  ordered {r : Router κ} : r.Sound → (observers r).Ordered

theorem Router.locationObservers_observers : Router.Observers (κ := κ) (·.locationObservers) :=
  ⟨Router.Later.locations, Router.Sound.locations⟩

theorem Router.routeObservers_observers : Router.Observers (κ := κ) (·.routeObservers) :=
  ⟨Router.Later.routes, Router.Sound.routes⟩

/-- An observer is noted once in a pass, if it is registered. -/
theorem Registry.Ordered.sum_noted {registry : Registry κ} (h : registry.Ordered) {id : Nat}
    (hid : id ∈ registry.ids) :
    (registry.entries.map fun observer => if observer.1 = id then (1 : Int) else 0).sum = 1 := by
  obtain ⟨⟨id', callback⟩, hmem, rfl⟩ := List.mem_map.1 hid
  exact (h.sum_eq hmem fun entry _ hother => if_neg hother).trans (if_pos rfl)

namespace Run

section Watches

variable {observers : Router κ → Registry κ} (hobservers : Router.Observers observers) {router : RouterId} {id : Nat}

include hobservers

/-- An observer that is registered before and after was registered all along, since no id is used again. -/
theorem convex_watches : Convex (World.Watches observers router id : World κ σ ε → Prop) := by
  rintro first second third hsound hlater hlater' ⟨r, hrouter, -, hid⟩ ⟨r'', hrouter'', hlistens, hid''⟩
  obtain ⟨r', hrouter', hr'⟩ := hlater router r hrouter
  obtain ⟨_, hsame, hr''⟩ := hlater' router r' hrouter'
  cases hrouter''.symm.trans hsame
  -- Ids are never used again, so that one which is there at the end was there all along.
  have hlt : id < (observers r).nextId :=
    (hobservers.ordered (hsound.routers router r hrouter)).lt_nextId id hid
  have hlt' : id < (observers r').nextId := Nat.lt_of_lt_of_le hlt (hobservers.later hr').nextId_le
  exact ⟨r', hrouter', hr''.subscription hlistens, (hobservers.later hr'').mem_ids hid'' hlt'⟩

/-- Telling the observers of a router runs one that is registered once. -/
theorem gains_tell_watched {channel : RouterId → Channel} {weight : Event ε → Int}
    (hquiet : ∀ event : Event ε, event.IsQuiet → weight event = 0) {other : RouterId}
    (hchannel : channel other ≠ .changes)
    (hran : ∀ pass id' sight,
      weight (.ran pass (channel other) id' sight) = if other = router ∧ id' = id then 1 else 0)
    {invoke : Invoke κ σ ε}
    (hinvoke : ∀ callback told,
      Within (Along (Gains (· = ·) (World.Watches observers router id) weight 0)) (invoke callback told)) :
    Within (Along (Gains (· = ·) (World.Watches observers router id) weight (share router 1 other)))
      (tell invoke channel observers other) := by
  have hK : Convex (World.Watches observers router id : World κ σ ε → Prop) := convex_watches hobservers
  by_cases hother : other = router
  · subst hother
    rw [share_self]
    intro world
    rw [Leads, tell, exec_get_bind]
    rcases hrouter : world.routers[other]? with _ | r
    · refine fun _ => (advance.refl world).along fun _ hwatches => ?_
      obtain ⟨r, hrouter', -⟩ := hwatches
      cases hrouter.symm.trans hrouter'
    · intro hends
      -- The pass is over the observers of before, whatever becomes of them meanwhile.
      have hpass := gains_notify comparison_eq hK hquiet hinvoke (by simpa using hran) (observers r) world hends
      refine hpass.mono fun hsound hgains hwatches hwatches' => ?_
      have hwatched := hwatches
      obtain ⟨_, hrouter', -, hid⟩ := hwatched
      cases hrouter.symm.trans hrouter'
      rw [← (hobservers.ordered (hsound.routers other r hrouter)).sum_noted hid]
      exact hgains hwatches hwatches'
  · rw [share_of_ne 1 hother]
    exact gains_tell comparison_eq hK hquiet hinvoke hchannel (by simp [hran, hother])

end Watches

end Run

end PageRouter
