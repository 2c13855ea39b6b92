import PageRouter.Proofs.Session.Journal
import PageRouter.Proofs.Session.Reached

namespace PageRouter

variable {κ σ ε α : Type}

namespace Event

/-- What an event says about the error that a router keeps from then on, which may be none. -/
def report? (router : RouterId) : Event ε → Option (Option RouteError)
  | syncFailed other error => if other = router then some (some error) else none
  | errorTaken other _ => if other = router then some none else none
  | _ => none

private theorem report?_syncFailed_self (router : RouterId) (error : RouteError) :
    (syncFailed router error : Event ε).report? router = some (some error) :=
  if_pos rfl

private theorem report?_errorTaken_self (router : RouterId) (answer : Option RouteError) :
    (errorTaken router answer : Event ε).report? router = some none :=
  if_pos rfl

/-- Minor events report nothing. -/
theorem IsMinor.report? {event : Event ε} (h : event.IsMinor) (router : RouterId) : event.report? router = none := by
  cases event <;> first | rfl | exact h.elim

/-- What is written down in the course of a reconciliation reports nothing either. -/
theorem IsStep.report? {event : Event ε} (h : event.IsStep) (router : RouterId) : event.report? router = none := by
  cases event <;> first | rfl | exact h.elim

/-- An event that reports an error tells of a router that could not follow the history. -/
theorem eq_syncFailed_of_report? {event : Event ε} {router : RouterId} {error : RouteError}
    (h : event.report? router = some (some error)) : event = .syncFailed router error := by
  cases event with
  | syncFailed other error' =>
    rw [Event.report?] at h
    split at h
    · next heq =>
      cases h
      rw [heq]
    · cases h
  | errorTaken other answer =>
    rw [Event.report?] at h
    split at h <;> cases h
  | _ => cases h

/-- Unless a router fails to follow the history or its error is taken, nothing is reported about it. -/
theorem KeepsUp.report? {event : Event ε} (h : event.KeepsUp) {router : RouterId}
    (huntaken : ∀ answer, event ≠ .errorTaken router answer) : event.report? router = none := by
  cases event with
  | syncFailed other error => exact h.elim
  | errorTaken other answer =>
    refine if_neg fun heq => huntaken answer ?_
    rw [heq]
  | _ => rfl

end Event

/-- The error that a router keeps after certain events, latest first, if it kept a given one before them. -/
def lastError (router : RouterId) (before : Option RouteError) (events : List (Event ε)) : Option RouteError :=
  (events.findSome? (·.report? router)).getD before

/-- Whoever takes the error of a router is given the one that the router keeps by then. -/
def Answered (router : RouterId) (before : Option RouteError) : List (Event ε) → Prop
  | [] => True
  | event :: earlier =>
    (∀ answer, event = .errorTaken router answer → answer = lastError router before earlier) ∧
      Answered router before earlier

section LastError

variable {router : RouterId} {before : Option RouteError} {events later earlier : List (Event ε)}

/-- What a router keeps after more events is what these leave of what it kept before them. -/
theorem lastError_append :
    lastError router before (later ++ earlier) = lastError router (lastError router before earlier) later := by
  rw [lastError, List.findSome?_append, lastError, lastError]
  cases later.findSome? (·.report? router) <;> rfl

/-- Where nothing is reported, a router keeps what it kept. -/
theorem lastError_of_silent (hsilent : ∀ event ∈ events, event.report? router = none) :
    lastError router before events = before := by
  rw [lastError, List.findSome?_eq_none_iff.2 hsilent]
  rfl

/-- A router that kept nothing keeps what it reported last. -/
theorem exists_of_lastError_eq_some {error : RouteError} (h : lastError router none events = some error) :
    ∃ later earlier, events = later ++ .syncFailed router error :: earlier ∧
      ∀ event ∈ later, event.report? router = none := by
  have hreport : events.findSome? (·.report? router) = some (some error) := by
    rw [lastError] at h
    rcases hreport : events.findSome? (·.report? router) with _ | report
    · rw [hreport] at h
      cases h
    · rw [hreport, Option.getD_some] at h
      rw [hreport, h]
  obtain ⟨later, event, earlier, hevents, hevent, hsilent⟩ := List.findSome?_eq_some_iff.1 hreport
  exact ⟨later, earlier, Event.eq_syncFailed_of_report? hevent ▸ hevents, hsilent⟩

/-- Answers are right one after the other if they are so for the error that is kept when they begin. -/
theorem Answered.append (hearlier : Answered router before earlier)
    (hlater : Answered router (lastError router before earlier) later) :
    Answered router before (later ++ earlier) := by
  induction later with
  | nil => exact hearlier
  | cons event later ih =>
    obtain ⟨hanswer, hrest⟩ := hlater
    refine ⟨fun answer hevent => ?_, ih hrest⟩
    exact (hanswer answer hevent).trans lastError_append.symm

private theorem answered_of_silent (hsilent : ∀ event ∈ events, event.report? router = none) :
    Answered router before events := by
  induction events with
  | nil => trivial
  | cons event events ih =>
    obtain ⟨hevent, hrest⟩ := List.forall_mem_cons.1 hsilent
    refine ⟨fun answer htaken => ?_, ih hrest⟩
    rw [htaken, Event.report?_errorTaken_self] at hevent
    cases hevent

/-- Whoever takes an error is given what was reported last. -/
theorem Answered.answer_eq {answer : Option RouteError}
    (h : Answered router before (later ++ .errorTaken router answer :: earlier)) :
    answer = lastError router before earlier := by
  induction later with
  | nil => exact h.1 answer rfl
  | cons event later ih => exact ih h.2

end LastError

namespace World

/-- The error that a router of a session keeps, if it is there. -/
def syncError (world : World κ σ ε) (router : RouterId) : Option RouteError :=
  world.routers[router]?.bind (·.syncError)

private theorem syncError_of_routers_eq {world after : World κ σ ε} (hrouters : after.routers = world.routers)
    (router : RouterId) : after.syncError router = world.syncError router :=
  congrArg (fun routers : List (Router κ) => routers[router]?.bind (·.syncError)) hrouters

private theorem syncError_modifyRouter (world : World κ σ ε) (router : RouterId) (f : Router κ → Router κ)
    (other : RouterId) (hf : ∀ r, (f r).syncError = r.syncError) :
    (world.modifyRouter router f).syncError other = world.syncError other := by
  rw [syncError, getElem?_modifyRouter, syncError]
  split
  · rw [Option.bind_map]
    exact congrArg _ (funext hf)
  · rfl

/-- A change of one router leaves the errors of others. -/
theorem syncError_modifyRouter_of_ne (world : World κ σ ε) {router other : RouterId} (f : Router κ → Router κ)
    (hother : other ≠ router) : (world.modifyRouter router f).syncError other = world.syncError other := by
  rw [syncError, getElem?_modifyRouter, if_neg hother.symm, syncError]

@[simp] theorem syncError_detach (world : World κ σ ε) (router other : RouterId) :
    (world.detach router).syncError other = world.syncError other := by
  rcases hid : world.routers[router]?.bind (·.subscription) with _ | id
  · rw [detach_of_none hid]
  · rw [detach_of_some hid]
    exact syncError_modifyRouter _ router _ other fun _ => rfl

@[simp] theorem syncError_releaseRouter (world : World κ σ ε) (router other : RouterId) :
    (world.releaseRouter router).syncError other = world.syncError other := by
  rw [releaseRouter]
  split
  · rfl
  · dsimp only
    split
    · exact (syncError_detach ..).trans (syncError_modifyRouter world router _ other fun _ => rfl)
    · exact syncError_modifyRouter world router _ other fun _ => rfl

@[simp] theorem syncError_relocate (world : World κ σ ε) (router other : RouterId) :
    (world.relocate router).syncError other = world.syncError other := by
  rcases world.relocate_cases router with heq | ⟨stored, nextStamp, heq⟩
  · rw [heq]
  · rw [heq]
    exact syncError_modifyRouter _ router _ other fun _ => rfl

@[simp] theorem syncError_replaceRoute (world : World κ σ ε) (router : RouterId) (route : Option Match)
    (other : RouterId) : (world.replaceRoute router route).syncError other = world.syncError other := by
  rcases world.replaceRoute_cases router route with heq | ⟨shown, stored, nextStamp, heq⟩
  · rw [heq]
  · rw [heq]
    exact syncError_modifyRouter _ router _ other fun _ => rfl

/-- A router that is opened keeps no error, like one that is not there. -/
theorem syncError_concat {world after : World κ σ ε} {r : Router κ} (hrouters : after.routers = world.routers ++ [r])
    (hnone : r.syncError = none) (router : RouterId) : after.syncError router = world.syncError router := by
  rw [syncError, hrouters, syncError, List.getElem?_append]
  split
  · rfl
  · next hbeyond =>
    rw [List.getElem?_eq_none (Nat.not_lt.1 hbeyond), List.getElem?_singleton]
    split
    · exact hnone
    · rfl

/-- A router that could not follow a change keeps the error of it. -/
theorem syncError_fail {world : World κ σ ε} {router : RouterId} {r : Router κ}
    (hrouter : world.routers[router]? = some r) (error : RouteError) :
    (world.fail router error).syncError router = some error := by
  have hrecorded : (world.record (.syncFailed router error)).routers[router]? = some r := hrouter
  rw [syncError, getElem?_modifyRouter, if_pos rfl, hrecorded]
  rfl

@[simp] theorem syncError_takeError (world : World κ σ ε) (router : RouterId) :
    (world.takeError router).syncError router = none := by
  rw [syncError, getElem?_modifyRouter, if_pos rfl, Option.bind_map]
  cases (world.record _).routers[router]? <;> rfl

end World

section Accounts

/-- The journal goes on, and accounts for the errors that routers keep and for those that are taken from them. A
router keeps the error of a change that it could not follow until the error is taken or another one comes in its
place; the journal says when each of this happens. -/
def Accounts (world after : World κ σ ε) : Prop :=
  ∃ events, after.journal = events ++ world.journal ∧ ∀ router,
    after.syncError router = lastError router (world.syncError router) events ∧
      Answered router (world.syncError router) events

namespace Accounts

variable {world after : World κ σ ε}

/-- Where nothing is reported and no error changes hands, there is nothing to account for. -/
theorem of_silent (events : List (Event ε)) (hjournal : after.journal = events ++ world.journal)
    (hsilent : ∀ event ∈ events, ∀ router, event.report? router = none)
    (hkept : ∀ router, after.syncError router = world.syncError router) : Accounts world after := by
  refine ⟨events, hjournal, fun router => ?_⟩
  have hsilent (event : Event ε) (hevent : event ∈ events) : event.report? router = none := hsilent event hevent router
  exact ⟨(hkept router).trans (lastError_of_silent hsilent).symm, answered_of_silent hsilent⟩

private theorem refl (world : World κ σ ε) : Accounts world world :=
  of_silent [] rfl (by simp) fun _ => rfl

private theorem record (world : World κ σ ε) {event : Event ε} (hsilent : ∀ router, event.report? router = none) :
    Accounts world (world.record event) :=
  of_silent [event] rfl (by simpa using hsilent) fun _ => rfl

/-- What is accounted for in two runs, one after the other, is accounted for in both together. -/
theorem trans {first second third : World κ σ ε} (hfirst : Accounts first second) (hsecond : Accounts second third) :
    Accounts first third := by
  obtain ⟨earlier, hjournal, hearlier⟩ := hfirst
  obtain ⟨later, hjournal', hlater⟩ := hsecond
  refine ⟨later ++ earlier, by rw [hjournal', hjournal, List.append_assoc], fun router => ?_⟩
  obtain ⟨hkept, hanswered⟩ := hearlier router
  obtain ⟨hkept', hanswered'⟩ := hlater router
  rw [hkept] at hkept' hanswered'
  exact ⟨hkept'.trans lastError_append.symm, hanswered.append hanswered'⟩

private theorem of_detached {router : RouterId} {events : List (Event ε)}
    (hjournal : after.journal = events ++ world.journal) (hevents : ∀ event ∈ events, event = .detached router)
    (hkept : ∀ router, after.syncError router = world.syncError router) : Accounts world after :=
  of_silent events hjournal (fun event hevent _ => hevents event hevent ▸ rfl) hkept

/-- A router that keeps an error has reported it. -/
theorem of_fail {router : RouterId} {r : Router κ} (hrouter : world.routers[router]? = some r) (error : RouteError) :
    Accounts world (world.fail router error) := by
  refine ⟨[.syncFailed router error], rfl, fun other => ⟨?_, nofun, trivial⟩⟩
  by_cases hother : other = router
  · rw [hother, World.syncError_fail hrouter, lastError, List.findSome?_cons, Event.report?_syncFailed_self]
    rfl
  · refine (World.syncError_modifyRouter_of_ne _ _ hother).trans (lastError_of_silent ?_).symm
    exact List.forall_mem_singleton.2 (if_neg (Ne.symm hother))

/-- An error that is taken is the one that the router kept, and is noted as such. -/
theorem of_takeError (world : World κ σ ε) (router : RouterId) : Accounts world (world.takeError router) := by
  refine ⟨[.errorTaken router (world.syncError router)], rfl, fun other => ?_⟩
  by_cases hother : other = router
  · rw [hother, World.syncError_takeError, lastError, List.findSome?_cons, Event.report?_errorTaken_self]
    refine ⟨rfl, fun answer htaken => ?_, trivial⟩
    cases htaken
    rfl
  · have hsilent : ∀ event ∈ [(.errorTaken router (world.syncError router) : Event ε)], event.report? other = none :=
      List.forall_mem_singleton.2 (if_neg (Ne.symm hother))
    refine ⟨?_, answered_of_silent hsilent⟩
    exact (World.syncError_modifyRouter_of_ne _ _ hother).trans (lastError_of_silent hsilent).symm

/-- In a minor change without a failure, errors are taken at most. -/
theorem of_abreast (habreast : Run.Abreast world after) : Accounts world after := by
  obtain ⟨hminor, events, hjournal, hkeepsUp⟩ := habreast
  cases hminor with
  | elsewhere _ _ hrouters hjournal =>
    exact of_silent [] hjournal (by simp) (World.syncError_of_routers_eq hrouters)
  | record hminor => exact .record world fun router => hminor.report? router
  | hold router | observeLocations router | observeRoutes router =>
    exact of_silent [] rfl (by simp) fun other => world.syncError_modifyRouter router _ other fun _ => rfl
  | release router =>
    obtain ⟨events, hjournal, hevents⟩ := world.journal_releaseRouter router
    exact of_detached hjournal hevents (world.syncError_releaseRouter router)
  | detach router =>
    obtain ⟨events, hjournal, hevents⟩ := world.journal_detach router
    exact of_detached hjournal hevents (world.syncError_detach router)
  | fail router error =>
    -- This is what keeping up rules out.
    have hevents : [.syncFailed router error] = events := List.append_cancel_right hjournal
    have hfailed : (Event.syncFailed router error : Event ε).KeepsUp :=
      hkeepsUp _ (hevents ▸ List.mem_singleton_self _)
    exact hfailed.elim
  | takeError router => exact of_takeError world router
  | listen | unlisten => exact of_silent [] rfl (by simp) (World.syncError_of_routers_eq rfl)
  | opened router guards nextStamp _ _ _ _ _ _ hsyncError =>
    exact of_silent [] rfl (by simp) (World.syncError_concat rfl hsyncError)

end Accounts

/-- As long as no router fails to follow the history, a router keeps its error until that is taken. -/
theorem Run.Abreast.keepsError {world after : World κ σ ε} (habreast : Run.Abreast world after) :
    ∃ events, after.journal = events ++ world.journal ∧ (∀ event ∈ events, event.IsQuiet) ∧ ∀ router,
      (∀ answer, .errorTaken router answer ∉ events) → after.syncError router = world.syncError router := by
  obtain ⟨events, hjournal, haccounts⟩ := Accounts.of_abreast habreast
  obtain ⟨hminor, others, hothers, hkeepsUp⟩ := habreast
  obtain ⟨quiet, hquietly, hquiet⟩ := hminor.journal
  cases List.append_cancel_right (hjournal.symm.trans hothers)
  cases List.append_cancel_right (hjournal.symm.trans hquietly)
  refine ⟨events, hjournal, hquiet, fun router huntaken => ?_⟩
  have hsilent (event : Event ε) (hevent : event ∈ events) : event.report? router = none :=
    (hkeepsUp event hevent).report? fun answer htaken => huntaken answer (htaken ▸ hevent)
  exact (haccounts router).1.trans (lastError_of_silent hsilent)

end Accounts

namespace Run

private theorem upholding_accounts : Upholding (Accounts : World κ σ ε → World κ σ ε → Prop) Accounts where
  refl := .refl
  trans := .trans
  before := .trans
  after := .trans
  widen := id
  abreast := .of_abreast

/-- Every step of a run is accounted for, so that a run is as a whole. -/
theorem stepwise_accounts : Stepwise (Accounts : World κ σ ε → World κ σ ε → Prop) where
  toSteady := upholding_accounts.steady
  look world := .record world fun _ => rfl
  step world _ := fun hstep => .record world hstep.report?
  relocate world router := .of_silent [] (world.journal_relocate router) (by simp) (world.syncError_relocate router)
  replaceRoute {world router _ route} hrouter _ := by
    obtain ⟨stored, -, -, hjournal⟩ := World.getElem?_replaceRoute_self route hrouter
    exact .of_silent [_] hjournal (by simp [Event.report?]) (world.syncError_replaceRoute router route)
  fail := .of_fail
  startPass := upholding_accounts.startPass .changes
  changed _ history := .of_silent [.changed history.current] rfl (by simp [Event.report?]) fun _ => rfl

end Run

/-- Whenever no program is running, a router keeps what the journal says, and everybody who took its error was given
what it kept by then. -/
theorem Reached.accounts {host : Host κ σ ε} {world : World κ σ ε} (h : Reached host world) (router : RouterId) :
    world.syncError router = lastError router none world.journal ∧ Answered router none world.journal := by
  induction h with
  | start location memory => exact ⟨rfl, trivial⟩
  | run _ depth program hends ih =>
    obtain ⟨events, hjournal, haccounts⟩ := Run.stepwise_accounts.lasting.run host depth program hends
    obtain ⟨hkept, hanswered⟩ := haccounts router
    rw [ih.1] at hkept hanswered
    rw [hjournal]
    exact ⟨hkept.trans lastError_append.symm, ih.2.append hanswered⟩

section Prompted

/-- Routers fail to follow the history only after it has changed. -/
def Prompted : List (Event ε) → Prop
  | [] => True
  | event :: earlier => (event.KeepsUp ∨ ∃ entry, .changed entry ∈ earlier) ∧ Prompted earlier

private theorem prompted_of_keepsUp {events : List (Event ε)} (hkeepsUp : ∀ event ∈ events, event.KeepsUp) :
    Prompted events := by
  induction events with
  | nil => trivial
  | cons event events ih =>
    obtain ⟨hevent, hrest⟩ := List.forall_mem_cons.1 hkeepsUp
    exact ⟨.inl hevent, ih hrest⟩

/-- Failures after failures, each after a change. -/
theorem Prompted.append {later earlier : List (Event ε)} (hearlier : Prompted earlier) (hlater : Prompted later) :
    Prompted (later ++ earlier) := by
  induction later with
  | nil => exact hearlier
  | cons event later ih =>
    obtain ⟨hevent, hrest⟩ := hlater
    exact ⟨hevent.imp_right fun ⟨entry, hentry⟩ => ⟨entry, List.mem_append_left _ hentry⟩, ih hrest⟩

private theorem prompted_concat_changed (events : List (Event ε)) (entry : Entry) :
    Prompted (events ++ [.changed entry]) := by
  induction events with
  | nil => exact ⟨.inl trivial, trivial⟩
  | cons event events ih => exact ⟨.inr ⟨entry, List.mem_append_right _ (List.mem_singleton_self _)⟩, ih⟩

/-- Before every failure stands a change of the history. -/
theorem Prompted.changed {later earlier : List (Event ε)} {router : RouterId} {error : RouteError}
    (h : Prompted (later ++ .syncFailed router error :: earlier)) : ∃ entry, .changed entry ∈ earlier := by
  induction later with
  | nil => exact h.1.resolve_left id
  | cons event later ih => exact ih h.2

/-- The journal goes on, and tells of failures only after a change. -/
def Prompts (world after : World κ σ ε) : Prop :=
  ∃ events, after.journal = events ++ world.journal ∧ Prompted events

/-- The journal goes on. -/
def Grows (world after : World κ σ ε) : Prop :=
  world.journal <:+ after.journal

/-- A journal that tells of failures goes on. -/
theorem Prompts.grows {world after : World κ σ ε} (h : Prompts world after) : Grows world after := by
  obtain ⟨events, hjournal, -⟩ := h
  exact ⟨events, hjournal.symm⟩

private theorem prompts_record (world : World κ σ ε) {event : Event ε} (hkeepsUp : event.KeepsUp) :
    Prompts world (world.record event) :=
  ⟨[event], rfl, .inl hkeepsUp, trivial⟩

namespace Run

private theorem tolerant_grows : Tolerant (Grows : World κ σ ε → World κ σ ε → Prop) Grows where
  refl _ := List.suffix_rfl
  trans := .trans
  before := .trans
  after := .trans
  widen := id
  minor hminor := by
    obtain ⟨events, hjournal, -⟩ := hminor.journal
    exact ⟨events, hjournal.symm⟩

/-- No step of a run takes anything out of the journal. -/
theorem stepwise_grows : Stepwise (Grows : World κ σ ε → World κ σ ε → Prop) where
  toSteady := tolerant_grows.steady
  look _ := List.suffix_cons ..
  step _ _ := fun _ => List.suffix_cons ..
  relocate world router := ⟨[], (world.journal_relocate router).symm⟩
  replaceRoute {_ _ _ route} hrouter _ := by
    obtain ⟨stored, -, -, hjournal⟩ := World.getElem?_replaceRoute_self route hrouter
    exact ⟨[_], hjournal.symm⟩
  fail _ _ := List.suffix_cons ..
  startPass := tolerant_grows.startPass .changes
  changed _ _ := List.suffix_cons ..

private theorem upholding_prompts : Upholding (Prompts : World κ σ ε → World κ σ ε → Prop) Prompts :=
  have hchains : Chains (Prompts : World κ σ ε → World κ σ ε → Prop) := by
    refine ⟨fun _ => ⟨[], rfl, trivial⟩, fun ⟨earlier, hjournal, hearlier⟩ ⟨later, hjournal', hlater⟩ => ?_⟩
    exact ⟨later ++ earlier, by rw [hjournal', hjournal, List.append_assoc], hearlier.append hlater⟩
  { hchains.widens with
    abreast := fun ⟨_, events, hjournal, hkeepsUp⟩ => ⟨events, hjournal, prompted_of_keepsUp hkeepsUp⟩ }

/-- No step of a reconciliation that is asked for is a failure to follow the history. -/
theorem following_prompts : Following (Prompts : World κ σ ε → World κ σ ε → Prop) where
  toSteady := upholding_prompts.steady
  look world := prompts_record world trivial
  step world event := fun hstep => prompts_record world (by cases event <;> first | exact hstep.elim | trivial)
  relocate world router := ⟨[], world.journal_relocate router, trivial⟩
  replaceRoute {_ _ _ route} hrouter _ := by
    obtain ⟨stored, -, -, hjournal⟩ := World.getElem?_replaceRoute_self route hrouter
    exact ⟨[_], hjournal, .inl trivial, trivial⟩

/-- Runs tell of failures only after a change, since routers follow the history in the passes over changes alone. -/
theorem lasting_prompts : Lasting (Prompts : World κ σ ε → World κ σ ε → Prop) where
  toSteady := following_prompts.toSteady
  look := following_prompts.look
  announce {invoke} hinvoke {world} {history} _ hends := by
    -- The change comes first, so that nothing more needs to be known of what the listeners do.
    have hgrows (callback : κ) (told : Bool) : Within Grows (invoke callback told) :=
      within_mono Prompts.grows (hinvoke callback told)
    have htold := within_notify_changes stepwise_grows.toChains.graded stepwise_grows.toSteady hgrows
      stepwise_grows.startPass (fun _ => ()) (stepwise_grows.within_follow stepwise_grows.fail hgrows) world.changes
    obtain ⟨events, hjournal⟩ := htold _ hends
    refine ⟨events ++ [.changed history.current], ?_, prompted_concat_changed events history.current⟩
    rw [List.append_assoc]
    exact hjournal.symm
  sync := following_prompts.within_syncAsked

end Run

end Prompted

end PageRouter
