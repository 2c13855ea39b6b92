import Mathlib.Algebra.BigOperators.Group.List.Basic
import PageRouter.Proofs.Session.Sound

namespace PageRouter

variable {κ σ ε : Type}

namespace Event

/-- Whether a callback is run at a channel, under an id. -/
def isRun (channel : Channel) (id : Nat) : Event ε → Bool
  | ran _ channel' id' _ => channel' = channel && id' = id
  | _ => false

/-- Whether the history has changed. -/
def isChange : Event ε → Bool
  | changed _ => true
  | _ => false

/-- Whether a router is asked to reconcile itself. -/
def isSyncOf (router : RouterId) : Event ε → Bool
  | syncAsked other => other = router
  | _ => false

/-- The routes before and after, if a router shows another route. -/
def replacement? (router : RouterId) : Event ε → Option (Option (Stamped Match) × Option (Stamped Match))
  | routeReplaced other before after => if other = router then some (before, after) else none
  | _ => none

/-- Whether a router shows another route. -/
def isReplacementOf (router : RouterId) (event : Event ε) : Bool :=
  (event.replacement? router).isSome

/-- Events without a change of the history, of what a router shows, or a callback of a router. -/
def IsQuiet : Event ε → Prop
  | changed _ | routeReplaced .. | syncAsked _ => False
  | ran _ channel _ _ => channel.IsMinor
  | _ => True

/-- Events that say nothing of what routers show are quiet. -/
theorem IsMinor.isQuiet {event : Event ε} (h : event.IsMinor) : event.IsQuiet := by
  cases event <;> first | exact h | trivial

private theorem IsQuiet.replacement? {event : Event ε} (h : event.IsQuiet) (router : RouterId) :
    event.replacement? router = none := by
  cases event <;> first | rfl | exact h.elim

/-- By a quiet event, no router shows another route. -/
theorem IsQuiet.isReplacementOf {event : Event ε} (h : event.IsQuiet) (router : RouterId) :
    event.isReplacementOf router = false := by
  rw [Event.isReplacementOf, h.replacement? router]
  rfl

/-- A quiet event is no change of the history. -/
theorem IsQuiet.isChange {event : Event ε} (h : event.IsQuiet) : event.isChange = false := by
  cases event <;> first | rfl | exact h.elim

/-- By a quiet event, no router is asked to reconcile itself. -/
theorem IsQuiet.isSyncOf {event : Event ε} (h : event.IsQuiet) (router : RouterId) :
    event.isSyncOf router = false := by
  cases event <;> first | rfl | exact h.elim

/-- By a quiet event, no callback of a router is run. -/
theorem IsQuiet.isRun {event : Event ε} (h : event.IsQuiet) {channel : Channel} (hchannel : ¬channel.IsMinor)
    (id : Nat) : event.isRun channel id = false := by
  cases event with
  | ran pass channel' id' sight =>
    have hother : channel' ≠ channel := fun hsame => hchannel (hsame ▸ h)
    simp [Event.isRun, hother]
  | _ => rfl

private theorem KeepsRoutes.replacement? {event : Event ε} (h : event.KeepsRoutes) (router : RouterId) :
    event.replacement? router = none := by
  cases event <;> first | rfl | exact h.elim

end Event

/-- The replacements of a router's route in a journal, latest first. -/
def replacements (router : RouterId) (journal : List (Event ε)) :
    List (Option (Stamped Match) × Option (Stamped Match)) :=
  journal.filterMap (·.replacement? router)

/-- Replacements, latest first, that lead from one stored route to another: each puts a different route in the
place of the one that is there by then. -/
def Linked (first : Option (Stamped Match)) :
    List (Option (Stamped Match) × Option (Stamped Match)) → Option (Stamped Match) → Prop
  | [], last => last = first
  | (before, after) :: earlier, last =>
    last = after ∧ Match.sameRoute? (before.map (·.value)) (after.map (·.value)) = false ∧
      Linked first earlier before

/-- Replacements that start from the route which earlier ones left go on from there. -/
theorem Linked.append {first middle last : Option (Stamped Match)}
    {later earlier : List (Option (Stamped Match) × Option (Stamped Match))}
    (hearlier : Linked first earlier middle) (hlater : Linked middle later last) :
    Linked first (later ++ earlier) last := by
  induction later generalizing last with
  | nil => exact hlater ▸ hearlier
  | cons replacement later ih =>
    obtain ⟨hlast, hdiffers, hrest⟩ := hlater
    exact ⟨hlast, hdiffers, ih hrest⟩

/-- One replacement at most has been made if and only if the routes at both ends differ. -/
theorem Linked.length_eq {first last : Option (Stamped Match)}
    {links : List (Option (Stamped Match) × Option (Stamped Match))} (h : Linked first links last)
    (hlength : links.length ≤ 1) :
    links.length = if Match.sameRoute? (first.map (·.value)) (last.map (·.value)) then 0 else 1 := by
  match links with
  | [] =>
    have hlast : last = first := h
    rw [hlast, Match.sameRoute?_refl]
    rfl
  | [(before, after)] =>
    obtain ⟨hlast, hdiffers, hfirst⟩ := h
    have hfirst : before = first := hfirst
    rw [hlast, ← hfirst, hdiffers]
    rfl
  | _ :: _ :: _ => exact absurd hlength (by simp)

/-- The replacements in a journal that goes on are those of both of its parts. -/
theorem replacements_append (router : RouterId) (later earlier : List (Event ε)) :
    replacements router (later ++ earlier) = replacements router later ++ replacements router earlier :=
  List.filterMap_append

/-- The replacements are as many as the events by which the router shows another route. -/
theorem length_replacements (router : RouterId) (journal : List (Event ε)) :
    (replacements router journal).length = journal.countP (·.isReplacementOf router) :=
  List.length_filterMap_eq_countP

private theorem replacements_of_keepsRoutes (router : RouterId) {event : Event ε} (hkeeps : event.KeepsRoutes) :
    replacements router [event] = [] := by
  rw [replacements, List.filterMap_cons, hkeeps.replacement? router]
  rfl

/-- Quiet events are no replacements. -/
theorem replacements_of_isQuiet (router : RouterId) {events : List (Event ε)}
    (hquiet : ∀ event ∈ events, event.IsQuiet) : replacements router events = [] :=
  List.filterMap_eq_nil_iff.2 fun event hevent => (hquiet event hevent).replacement? router

/-- The sum of what the events of a journal weigh. -/
def tally (weight : Event ε → Int) (journal : List (Event ε)) : Int :=
  (journal.map weight).sum

section Tally

variable (weight : Event ε → Int)

@[simp] theorem tally_nil : tally weight [] = 0 := rfl

@[simp] theorem tally_cons (event : Event ε) (journal : List (Event ε)) :
    tally weight (event :: journal) = weight event + tally weight journal := by
  simp [tally]

/-- A journal that goes on weighs as much as both of its parts. -/
theorem tally_append (later earlier : List (Event ε)) :
    tally weight (later ++ earlier) = tally weight later + tally weight earlier := by
  simp [tally]

/-- What weighs one or nothing is counted. -/
theorem tally_toInt (p : Event ε → Bool) (journal : List (Event ε)) :
    tally (fun event => (p event).toInt) journal = journal.countP p := by
  induction journal with
  | nil => rfl
  | cons event journal ih =>
    rw [tally_cons, ih, List.countP_cons]
    cases p event <;> simp [Int.add_comm]

/-- Weights that are added are tallied one by one. -/
theorem tally_add (weight' : Event ε → Int) (journal : List (Event ε)) :
    tally (fun event => weight event + weight' event) journal = tally weight journal + tally weight' journal := by
  induction journal with
  | nil => rfl
  | cons event journal ih =>
    rw [tally_cons, tally_cons, tally_cons, ih]
    omega

/-- Weights that are set off against each other are tallied one by one. -/
theorem tally_sub (weight' : Event ε → Int) (journal : List (Event ε)) :
    tally (fun event => weight event - weight' event) journal = tally weight journal - tally weight' journal := by
  induction journal with
  | nil => rfl
  | cons event journal ih =>
    rw [tally_cons, tally_cons, tally_cons, ih]
    omega

/-- Quiet events weigh nothing where none of them does. -/
theorem tally_of_isQuiet {weight : Event ε → Int} (hweight : ∀ event : Event ε, event.IsQuiet → weight event = 0)
    {events : List (Event ε)} (hquiet : ∀ event ∈ events, event.IsQuiet) : tally weight events = 0 := by
  induction events with
  | nil => rfl
  | cons event events ih =>
    rw [tally_cons, hweight event (hquiet event List.mem_cons_self),
      ih fun other hother => hquiet other (List.mem_cons_of_mem _ hother)]
    rfl

end Tally

namespace World

@[simp] theorem journal_relocate (world : World κ σ ε) (router : RouterId) :
    (world.relocate router).journal = world.journal := by
  rcases world.relocate_cases router with heq | ⟨stored, nextStamp, heq⟩
  · rw [heq]
  · rw [heq]
    rfl

/-- A router that takes over another location keeps the route that it has stored. -/
theorem route_relocate (world : World κ σ ε) (router : RouterId) :
    world.Each (fun r r' => r'.route = r.route) (world.relocate router) :=
  each_relocate (P := fun r r' => r'.route = r.route) (fun _ => rfl) (fun _ _ => rfl) world router

end World

/-- Minor changes add quiet events to the journal. -/
theorem Minor.journal {world after : World κ σ ε} (hminor : Minor world after) :
    ∃ events, after.journal = events ++ world.journal ∧ ∀ event ∈ events, event.IsQuiet := by
  cases hminor with
  | elsewhere _ _ _ hjournal => exact ⟨[], hjournal, by simp⟩
  | @record event hevent => exact ⟨[event], rfl, by simpa using hevent.isQuiet⟩
  | fail router error => exact ⟨[.syncFailed router error], rfl, by simp [Event.IsQuiet]⟩
  | takeError router => exact ⟨[.errorTaken router _], rfl, by simp [Event.IsQuiet]⟩
  | release router =>
    obtain ⟨events, hjournal, hevents⟩ := world.journal_releaseRouter router
    exact ⟨events, hjournal, fun event hevent => hevents event hevent ▸ trivial⟩
  | detach router =>
    obtain ⟨events, hjournal, hevents⟩ := world.journal_detach router
    exact ⟨events, hjournal, fun event hevent => hevents event hevent ▸ trivial⟩
  | hold | observeLocations | observeRoutes | listen | unlisten | opened => exact ⟨[], rfl, by simp⟩

/-- The journal goes on, and accounts for what became of the routes of all routers: the route of a router is replaced
exactly where the journal says so, each time by another route, and every replacement starts from the route that the
one before left. -/
def Chronicled (world after : World κ σ ε) : Prop :=
  ∃ events, after.journal = events ++ world.journal ∧
    ∀ (router : RouterId) (r : Router κ), world.routers[router]? = some r →
      ∃ r', after.routers[router]? = some r' ∧ Linked r.route (replacements router events) r'.route

namespace Chronicled

variable {world after : World κ σ ε}

private theorem of_keepsRoutes (events : List (Event ε)) (hjournal : after.journal = events ++ world.journal)
    (hnone : ∀ router, replacements router events = [])
    (hrouters : world.Each (fun r r' => r'.route = r.route) after) : Chronicled world after := by
  refine ⟨events, hjournal, fun router r hrouter => ?_⟩
  obtain ⟨r', hrouter', hroute⟩ := hrouters router r hrouter
  rw [hnone]
  exact ⟨r', hrouter', hroute⟩

private theorem of_routers_eq (events : List (Event ε)) (hjournal : after.journal = events ++ world.journal)
    (hnone : ∀ router, replacements router events = []) (hrouters : after.routers = world.routers) :
    Chronicled world after :=
  of_keepsRoutes events hjournal hnone fun _ r hrouter => ⟨r, hrouters ▸ hrouter, rfl⟩

/-- What is accounted for in two runs, one after the other, is accounted for in both together. -/
theorem trans {first second third : World κ σ ε} (hfirst : Chronicled first second)
    (hsecond : Chronicled second third) : Chronicled first third := by
  obtain ⟨earlier, hjournal, hlinked⟩ := hfirst
  obtain ⟨later, hjournal', hlinked'⟩ := hsecond
  refine ⟨later ++ earlier, by rw [hjournal', hjournal, List.append_assoc], fun router r hrouter => ?_⟩
  obtain ⟨r', hrouter', hlink⟩ := hlinked router r hrouter
  obtain ⟨r'', hrouter'', hlink'⟩ := hlinked' router r' hrouter'
  rw [replacements_append]
  exact ⟨r'', hrouter'', hlink.append hlink'⟩

private theorem of_minor (hminor : Minor world after) : Chronicled world after := by
  obtain ⟨events, hjournal, hquiet⟩ := hminor.journal
  exact of_keepsRoutes events hjournal (fun router => replacements_of_isQuiet router hquiet)
    (hminor.kept.mono Router.Kept.route)

private theorem of_relocate (world : World κ σ ε) (router : RouterId) : Chronicled world (world.relocate router) :=
  of_keepsRoutes [] (world.journal_relocate router) (fun _ => rfl) (world.route_relocate router)

/-- A route that is replaced by another one is accounted for by the note about it. -/
theorem of_replaceRoute {router : RouterId} {r : Router κ} {route : Option Match}
    (hrouter : world.routers[router]? = some r)
    (hdiffers : Match.sameRoute? (r.route.map (·.value)) route = false) :
    Chronicled world (world.replaceRoute router route) := by
  obtain ⟨stored, hstored, hself, hjournal⟩ := World.getElem?_replaceRoute_self route hrouter
  refine ⟨[.routeReplaced router r.route stored], hjournal, fun other r' hother => ?_⟩
  by_cases heq : other = router
  · subst heq
    cases hrouter.symm.trans hother
    refine ⟨_, hself, ?_⟩
    simp only [replacements, List.filterMap_cons, Event.replacement?, if_pos, List.filterMap_nil]
    exact ⟨rfl, hstored.symm ▸ hdiffers, rfl⟩
  · refine ⟨r', (World.getElem?_replaceRoute_of_ne route heq).trans hother, ?_⟩
    simp only [replacements, List.filterMap_cons, Event.replacement?, if_neg (Ne.symm heq), List.filterMap_nil]
    exact rfl

end Chronicled

namespace Run

private theorem chronicled_record (world : World κ σ ε) {event : Event ε} (hkeeps : event.KeepsRoutes) :
    Chronicled world (world.record event) :=
  .of_routers_eq [event] rfl (fun router => replacements_of_keepsRoutes router hkeeps) rfl

/-- Minor changes have nothing to account for. -/
theorem tolerant_chronicled : Tolerant (Chronicled : World κ σ ε → World κ σ ε → Prop) Chronicled where
  refl _ := .of_routers_eq [] rfl (fun _ => rfl) rfl
  trans := .trans
  before := .trans
  after := .trans
  widen := id
  minor := .of_minor

/-- Every step of a run is accounted for, so that a run is as a whole. -/
theorem chronicled : Stepwise (Chronicled : World κ σ ε → World κ σ ε → Prop) where
  toSteady := tolerant_chronicled.steady
  look world := chronicled_record world trivial
  step world _ := fun hstep => chronicled_record world hstep.keepsRoutes
  relocate := .of_relocate
  replaceRoute := .of_replaceRoute
  fail _ error := tolerant_chronicled.minor (.fail _ _ error)
  startPass := tolerant_chronicled.startPass .changes
  changed _ history :=
    .of_routers_eq [.changed history.current] rfl (fun router => replacements_of_keepsRoutes router trivial) rfl

end Run

end PageRouter
