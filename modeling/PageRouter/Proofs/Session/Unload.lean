import PageRouter.Proofs.Session.Attach

namespace PageRouter

variable {κ σ ε α : Type}

private theorem Event.IsStep.keepsGuards {event : Event ε} (h : event.IsStep) : event.KeepsGuards := by
  cases event <;> first | exact h.elim | trivial

namespace Run

section Steps

variable (guard : GuardId)

/-- Whatever happens at once, a guard keeps its business. -/
theorem stepwise_tends : Stepwise (Tends guard : World κ σ ε → World κ σ ε → Prop) where
  toWidens := (chains_tends guard).widens
  slight hslight := by
    obtain ⟨events, hjournal, hkeeps⟩ := hslight.events
    exact tends_of_keepsGuards hslight.guards events hjournal
      (truthful_of_keepsGuards guard fun event hmem => (hkeeps event hmem).keepsGuards)
  addBlocker {_ _} hinvoke acting callback := by
    -- What is done at another guard leaves the business of this one alone.
    by_cases hother : acting = guard
    · subst hother
      exact tends_addBlocker hinvoke callback
    · exact tends_addBlocker_of_ne hother hinvoke callback
  removeBlocker {_ _} hinvoke acting id := by
    by_cases hother : acting = guard
    · subst hother
      exact tends_removeBlocker hinvoke id
    · exact tends_removeBlocker_of_ne hother hinvoke id
  look := tends_looked guard
  step world _ hstep := tends_record world hstep.keepsGuards
  relocate world router := by
    obtain ⟨hkeeps, hjournal⟩ := world.relocate_keepsGuards router
    exact tends_of_keepsGuards hkeeps [] hjournal (truthful_nil guard)
  replaceRoute {world router r route} hrouter _ := by
    rw [World.replaceRoute, hrouter]
    exact tends_of_event (.of_eq rfl rfl rfl) rfl trivial
  fail _ _ := tends_of_event (.of_eq rfl rfl rfl) rfl trivial
  startPass := within_modifyGet fun _ => tends_of_event (.of_eq rfl rfl rfl) rfl trivial
  changed _ _ := tends_of_event (.of_eq rfl rfl rfl) rfl trivial

end Steps

end Run

/-- A guard that no program has done anything to has no business and no handlers. -/
theorem World.listed_single (location : Location) (memory : σ) :
    World.Listed ({ history := .single location, memory } : World κ σ ε) where
  ordered := Registry.ordered_empty
  handles _ hid := by cases hid
  owned _ _ hid := by cases hid

/-- At its start, every guard is attended to with no business left. -/
theorem World.attends_single (location : Location) (memory : σ) (guard : GuardId) :
    World.Attends ({ history := .single location, memory } : World κ σ ε) guard ⟨false, 0, ∅⟩ := by
  refine ⟨⟨fun _ hid => (by cases hid), fun _ => rfl, fun _ => iff_of_true rfl rfl⟩, Business.ext rfl rfl ?_⟩
  exact Set.ext fun id => iff_of_false (fun hstray => (by cases hstray.1)) (Set.notMem_empty id)

namespace Reached

variable {host : Host κ σ ε} {world : World κ σ ε}

/-- A guard has kept its business since the start of a session. -/
theorem tends (h : Reached host world) (guard : GuardId) :
    ∃ location memory, Run.Tends guard { history := .single location, memory } world := by
  induction h with
  | start location memory => exact ⟨location, memory, (Run.chains_tends guard).refl _⟩
  | run _ depth program hends ih =>
    obtain ⟨location, memory, htends⟩ := ih
    have hrun := (Run.stepwise_tends guard).lasting.run host depth program hends
    exact ⟨location, memory, (Run.chains_tends guard).trans htends hrun⟩

/-- Between runs nothing is left to do about a guard, and what programs saw of it in the meantime was settled: across
every run, a guard keeps the business that it started with, which was none. -/
theorem attends (h : Reached host world) {guard : GuardId} (hcalm : .unwound guard ∉ world.journal) :
    world.Listed ∧ world.Attends guard ⟨false, 0, ∅⟩ ∧ Truthful guard world.journal := by
  obtain ⟨location, memory, htends⟩ := h.tends guard
  obtain ⟨⟨hlisted, -⟩, events, hjournal, htended⟩ := htends (World.listed_single location memory)
  obtain ⟨hattended, hbusiness⟩ := World.attends_single (κ := κ) (ε := ε) location memory guard
  rw [List.append_nil] at hjournal
  rw [← hjournal, hbusiness] at htended
  obtain ⟨hattends, htruthful⟩ := htended hcalm hattended trivial
  exact ⟨hlisted, hattends, htruthful fun _ => ⟨rfl, rfl⟩⟩

end Reached

/-- A session that differs at most in what was written down, and in how many passes there were. -/
def World.Alike (world after : World κ σ ε) : Prop :=
  ∃ journal nextPass, after = { world with journal, nextPass }

namespace World

variable {world after : World κ σ ε}

private theorem Alike.record (h : world.Alike after) (event : Event ε) : world.Alike (after.record event) := by
  obtain ⟨journal, nextPass, rfl⟩ := h
  exact ⟨event :: journal, nextPass, rfl⟩

private theorem Alike.holdGuard (h : world.Alike after) (guard : GuardId) :
    (world.holdGuard guard).Alike (after.holdGuard guard) := by
  obtain ⟨journal, nextPass, rfl⟩ := h
  exact ⟨journal, nextPass, rfl⟩

private theorem Alike.releaseGuard {guard : GuardId} (h : (world.holdGuard guard).Alike after) :
    world.Alike (after.releaseGuard guard) := by
  obtain ⟨journal, nextPass, rfl⟩ := h
  refine ⟨journal, nextPass, ?_⟩
  have hguards : ((world.holdGuard guard).releaseGuard guard).guards = world.guards := by
    rw [World.releaseGuard, World.holdGuard, modifyGuard_modifyGuard]
    exact List.modify_id guard world.guards
  rw [World.releaseGuard, modifyGuard]
  exact congrArg (fun guards => { world with guards, journal, nextPass }) hguards

/-- Where only one guard has unload handlers, there are no others. -/
theorem length_unloadHandlers_of_only {guard : GuardId}
    (honly : ∀ entry ∈ world.unload.entries, entry.2 = .guard guard) :
    (world.unloadHandlers guard).length = world.unload.entries.length := by
  rw [unloadHandlers]
  generalize world.unload.entries = entries at honly
  induction entries with
  | nil => rfl
  | cons entry entries ih =>
    obtain ⟨id, handler⟩ := entry
    obtain rfl : handler = .guard guard := honly (id, handler) List.mem_cons_self
    have hmore := ih fun entry hentry => honly entry (List.mem_cons_of_mem _ hentry)
    simpa using hmore

end World

namespace Run

/-- In a certain session, all that a computation does is to answer, whatever was written down before. -/
def Answers (session : World κ σ ε) (body : Run κ σ ε Bool) (answer : Bool) : Prop :=
  ∀ world, session.Alike world → ∃ after, session.Alike after ∧ body.exec world = (.ok answer, after)

section Answers

variable {session : World κ σ ε} {guard : GuardId}

/-- Asking callbacks that only answer gives yes if one of them says so. -/
theorem answers_askUntilYes {ask : α → Run κ σ ε Bool} {answer : α → Bool} (pass : Nat) (channel : Channel)
    (asked : List (Nat × α)) (hask : ∀ entry ∈ asked, Answers session (ask entry.2) (answer entry.2)) :
    Answers session (askUntilYes pass channel ask asked) (asked.any fun entry => answer entry.2) := by
  induction asked with
  | nil => exact fun world halike => ⟨world, halike, rfl⟩
  | cons first more ih =>
    obtain ⟨id, callback⟩ := first
    intro world halike
    obtain ⟨middle, hmiddle, hexec⟩ := hask (id, callback) List.mem_cons_self _ (halike.record
      (.ran pass channel id (world.sightAt? channel)))
    rw [askUntilYes, recordRan, exec_bind_ok (exec_modify _ world), exec_bind_ok hexec]
    cases hanswer : answer callback with
    | true => exact ⟨middle, hmiddle, by simp [hanswer]⟩
    | false =>
      obtain ⟨after, hafter, hmore⟩ :=
        ih (fun entry hentry => hask entry (List.mem_cons_of_mem _ hentry)) middle hmiddle
      exact ⟨after, hafter, by simp [hanswer, hmore]⟩

private theorem answers_askAll {ask : α → Run κ σ ε Bool} (answer : α → Bool) (channel : Channel)
    {registry : Registry α} (hask : ∀ entry ∈ registry.entries, Answers session (ask entry.2) (answer entry.2)) :
    Answers session (askAll channel ask registry) (registry.entries.any fun entry => answer entry.2) := by
  rintro _ ⟨journal, nextPass, rfl⟩
  exact answers_askUntilYes nextPass channel registry.entries hask _ ⟨_, _, rfl⟩

/-- The blockers of a guard say yes if one of them does. -/
theorem answers_askBlockers {invoke : Invoke κ σ ε} {g : Guard κ} (hguard : session.guards[guard]? = some g)
    {answer : κ → Bool} (hask : ∀ entry ∈ g.blockers.entries, Answers session (invoke entry.2 false) (answer entry.2)) :
    Answers session (askBlockers invoke guard false) (g.blockers.entries.any fun entry => answer entry.2) := by
  rintro _ ⟨journal, nextPass, rfl⟩
  rw [askBlockers, exec_get_bind, hguard]
  exact answers_askAll answer (.blockers guard) hask _ ⟨journal, nextPass, rfl⟩

/-- The unload handler of a guard that somebody holds speaks for its blockers. -/
theorem answers_askUnload {invoke : Invoke κ σ ε} (hheld : session.isGuardHeld guard = true) {answer : Bool}
    (hask : Answers (session.holdGuard guard) (askBlockers invoke guard false) answer) :
    Answers session (askUnload invoke (.guard guard)) answer := by
  rintro _ ⟨journal, nextPass, rfl⟩
  have hheld' : World.isGuardHeld { session with journal, nextPass } guard = true := hheld
  rw [askUnload, exec_get_bind, if_pos hheld', holdingGuard, exec_between]
  obtain ⟨after, hafter, hexec⟩ := hask _ (World.Alike.holdGuard ⟨journal, nextPass, rfl⟩ guard)
  rw [hexec]
  exact ⟨_, hafter.releaseGuard, rfl⟩

/-- Leaving is a question for the one handler of a guard that stands settled. -/
theorem answers_requestUnload {invoke : Invoke κ σ ε} {standing : Standing}
    (hstanding : session.standings[guard]? = some standing) (hsettled : standing.Settled)
    (honly : ∀ entry ∈ session.unload.entries, entry.2 = .guard guard) {answer : Bool}
    (hempty : standing.blockers = 0 → answer = false)
    (hask : Answers session (askUnload invoke (.guard guard)) answer) :
    Answers session (requestUnload invoke) answer := by
  rw [World.getElem?_standings, Option.map_eq_some_iff] at hstanding
  obtain ⟨g, hguard, rfl⟩ := hstanding
  have hlength : session.unload.entries.length = if 0 < g.blockers.size then 1 else 0 := by
    rw [← World.length_unloadHandlers_of_only honly]
    exact hsettled.handlers
  have hasked : Answers session (askAll .unload (askUnload invoke) session.unload)
      (session.unload.entries.any fun _ => answer) :=
    answers_askAll (fun _ => answer) .unload fun entry hentry => honly entry hentry ▸ hask
  have hanswer : (session.unload.entries.any fun _ => answer) = answer := by
    rcases hentries : session.unload.entries with _ | ⟨entry, more⟩
    · rw [hentries] at hlength
      split at hlength
      · cases hlength
      · next hnone => exact (hempty (Nat.eq_zero_of_not_pos hnone)).symm
    · rw [hentries] at hlength
      split at hlength
      · have hmore : more = [] := List.eq_nil_of_length_eq_zero (Nat.succ.inj hlength)
        simp [hmore]
      · cases hlength
  rintro _ ⟨journal, nextPass, rfl⟩
  rw [hanswer] at hasked
  exact hasked _ ⟨journal, nextPass, rfl⟩

end Answers

end Run

/-- The unload handler of a guard is there exactly while blockers are, in every session that a host can get to by
programs and callbacks that come back to the guard as they like, a source that is just registering or removing the
handler included. Only a panic that goes through such a registration or removal is left out. Whenever no blocker is
being added or removed, which between runs is always, the guard has its one handler if it has blockers, has none if
it has none, and says so; what programs see at such moments agrees. In a session where a guard that somebody holds
stands like this, and where no one else is asked, leaving has to be confirmed exactly if some blocker says so, if
all that the blockers do is to answer. -/
theorem Reached.unload_follows_blockers {host : Host κ σ ε} {world : World κ σ ε} (h : Reached host world)
    {guard : GuardId} (hcalm : .unwound guard ∉ world.journal) :
    (∀ standing, world.standings[guard]? = some standing → standing.changing = 0 ∧ standing.Settled) ∧
    (∀ standings, .looked standings ∈ world.journal → ∀ standing, standings[guard]? = some standing →
      standing.changing = 0 → standing.Settled) ∧
    ∀ (invoke : Invoke κ σ ε) (now : World κ σ ε) (g : Guard κ) (standing : Standing) (answer : κ → Bool),
      now.guards[guard]? = some g → 0 < g.holders →
      now.standings[guard]? = some standing → standing.Settled →
      (∀ entry ∈ now.unload.entries, entry.2 = .guard guard) →
      (∀ blocker ∈ g.blockers.entries,
        Run.Answers (now.holdGuard guard) (invoke blocker.2 false) (answer blocker.2)) →
      Run.Answers now (Run.requestUnload invoke) (g.blockers.entries.any fun blocker => answer blocker.2) := by
  obtain ⟨hlisted, ⟨hattended, hbusiness⟩, htruthful⟩ := h.attends hcalm
  -- Between runs no addition or removal is under way, and nothing is left undone of any.
  have hidle : (world.business guard).Idle := hbusiness ▸ fun _ => ⟨rfl, rfl⟩
  refine ⟨fun standing hstanding => ?_, htruthful, ?_⟩
  · have hchanging : standing.changing = 0 := by
      rw [World.getElem?_standings, Option.map_eq_some_iff] at hstanding
      obtain ⟨g, hguard, rfl⟩ := hstanding
      have hnone : (world.business guard).changing = 0 := by rw [hbusiness]
      rw [World.business_eq hguard] at hnone
      exact hnone
    exact ⟨hchanging, World.settled_of_idle hlisted hattended hidle hstanding hchanging⟩
  · intro invoke now g standing answer hguard hheld hstanding hsettled honly hask
    have hheld' : now.isGuardHeld guard = true := by simpa [World.isGuardHeld, hguard] using hheld
    have hguard' : (now.holdGuard guard).guards[guard]? = some { g with holders := g.holders + 1 } := by
      rw [World.holdGuard, World.getElem?_modifyGuard, hguard]
      rfl
    refine Run.answers_requestUnload hstanding hsettled honly (fun hnone => ?_)
      (Run.answers_askUnload hheld' (Run.answers_askBlockers hguard' hask))
    rw [World.getElem?_standings, hguard] at hstanding
    obtain rfl := Option.some.inj hstanding
    rw [List.eq_nil_of_length_eq_zero hnone, List.any_nil]

/-- The callbacks of a source that adds a blocker while it registers an unload handler, and blockers with fixed
answers. -/
inductive Clerk where
  | attaching
  | answering (answer : Bool)
  deriving DecidableEq

/-- While the handler is being registered, the source adds a blocker that says yes, and another one that it removes
again. -/
def clerkHost : Host Clerk Unit Unit where
  respond
    | .attaching, _ =>
      .ask (.subscribe (.blockers 0) (.answering true)) fun _ =>
        .ask (.subscribe (.blockers 0) (.answering false)) fun handle =>
          .ask (.unsubscribe handle) fun _ => .inspect fun _ => .done false
    | .answering answer, _ => .done answer
  refusal _ := none
  beforeAttach := some .attaching

/-- Opens a guard, and adds a blocker that says no. -/
def openAttended : Program Clerk Unit Unit Unit :=
  .ask .openGuard fun guard =>
    .ask (.subscribe (.blockers guard) (.answering false)) fun _ => .inspect fun _ => .done ()

/-- The start of the session. -/
def attendedStart : World Clerk Unit Unit where
  history := .single ⟨"o", "a", "a", "", ""⟩
  memory := ()

/-- The session after that. -/
def attendedSession : World Clerk Unit Unit :=
  (openAttended.run clerkHost 2 attendedStart).2

/-- Both blockers are there in the end, and one handler for them. -/
theorem attendedSession_follows_blockers :
    attendedSession.standings = [⟨2, true, false, 1, 0⟩] ∧
    (⟨2, true, false, 1, 0⟩ : Standing).Settled ∧
    (∀ standings, .looked standings ∈ attendedSession.journal → ∀ standing, standings[0]? = some standing →
      standing.changing = 0 → standing.Settled) ∧
    Run.Answers attendedSession (Run.requestUnload (Run.invoke clerkHost 1)) true := by
  have hends : (openAttended.run clerkHost 2 attendedStart).1 ≠ .error .exhausted := by
    intro hexhausted
    have hends : (openAttended.run clerkHost 2 attendedStart).1.isOk = true := by decide +kernel
    rw [hexhausted] at hends
    cases hends
  have hreached : Reached clerkHost attendedSession := .run (.start _ ()) 2 openAttended hends
  have hcalm : .unwound 0 ∉ attendedSession.journal := by
    have hcalm : attendedSession.journal.all (fun | .unwound _ => false | _ => true) = true := by decide +kernel
    exact fun hmem => absurd (List.all_eq_true.1 hcalm _ hmem) (by simp)
  have hstandings : attendedSession.standings = [⟨2, true, false, 1, 0⟩] := by decide +kernel
  have hstanding : attendedSession.standings[0]? = some ⟨2, true, false, 1, 0⟩ := by rw [hstandings]; rfl
  obtain ⟨g, more, hguards, hchain, -⟩ : ∃ g more, attendedSession.guards = g :: more ∧
      (g.blockers.entries, g.holders) = ([(0, .answering false), (1, .answering true)], 1) ∧ more.map _ = [] :=
    List.map_eq_cons_iff.1 (by decide +kernel)
  obtain ⟨hblockers, hheld⟩ := Prod.mk.inj hchain
  have honly : attendedSession.unload.entries = [(0, .guard 0)] := by decide +kernel
  obtain ⟨hnow, hlooked, hrequest⟩ := hreached.unload_follows_blockers hcalm
  have hsettled := (hnow _ hstanding).2
  refine ⟨hstandings, hsettled, hlooked, ?_⟩
  have hasked := hrequest (Run.invoke clerkHost 1) attendedSession g _ (fun clerk => clerk = .answering true)
    (by rw [hguards]; rfl) (by rw [hheld]; exact Nat.one_pos) hstanding hsettled (by simp [honly]) ?_
  · rw [hblockers] at hasked
    exact hasked
  · rw [hblockers]
    intro blocker hblocker
    have hanswering : ∃ answer, blocker.2 = .answering answer := by
      rcases List.mem_pair.1 hblocker with rfl | rfl
      · exact ⟨false, rfl⟩
      · exact ⟨true, rfl⟩
    obtain ⟨answer, hanswer⟩ := hanswering
    rw [hanswer]
    intro world halike
    refine ⟨world, halike, ?_⟩
    cases answer <;> rfl

end PageRouter
