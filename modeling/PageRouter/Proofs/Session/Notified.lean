import PageRouter.Proofs.Session.Passes
import PageRouter.Session.Report

namespace PageRouter

variable {κ σ ε α : Type}

/-- The line that tells of the panic of an observer. -/
def Payload.logLine : Payload → LogLine
  | .text message => ⟨.error, "observer panicked", [("panic", message)]⟩
  | .value => ⟨.error, "observer panicked", [("panic", "non-string panic payload")]⟩

private theorem Event.logLine?_panicked (payload : Payload) :
    (panicked payload : Event ε).logLine? = some payload.logLine := by
  cases payload with
  | text message => rfl
  | value => rfl

namespace World

/-- What was logged, in order. -/
def log (world : World κ σ ε) : List LogLine :=
  world.journal.reverse.filterMap Event.logLine?

/-- What is logged later comes behind what was logged before. -/
theorem log_of_journal_eq {world after : World κ σ ε} {events : List (Event ε)}
    (hjournal : after.journal = events ++ world.journal) :
    after.log = world.log ++ events.reverse.filterMap Event.logLine? := by
  rw [log, hjournal, List.reverse_append, List.filterMap_append, log]

private theorem log_record (world : World κ σ ε) (event : Event ε) :
    (world.record event).log = world.log ++ event.logLine?.toList := by
  have hjournal : (world.record event).journal = [event] ++ world.journal := rfl
  rw [log_of_journal_eq hjournal]
  rcases hline : event.logLine? with _ | line
  · rw [List.reverse_singleton, List.filterMap_cons_none hline]
    rfl
  · rw [List.reverse_singleton, List.filterMap_cons_some hline]
    rfl

end World

/-- What came of an observer in its turn. -/
structure Turn where
  /-- What was logged while the observer ran. -/
  said : List LogLine
  /-- What the observer panicked with, if it did. -/
  panic? : Option Payload

namespace Turn

/-- How an observer ends in its turn. -/
def ending (turn : Turn) : Except Stop Unit :=
  match turn.panic? with
  | none => .ok ()
  | some payload => .error (.panic payload)

private theorem ending_ne_exhausted (turn : Turn) : turn.ending ≠ .error .exhausted := by
  rw [ending]
  cases turn.panic? with
  | none => exact nofun
  | some payload => exact nofun

/-- What is logged in a turn. -/
def lines (turn : Turn) : List LogLine :=
  turn.said ++ turn.panic?.toList.map Payload.logLine

/-- The session after the turn of an observer that ended in a session. -/
def settle (turn : Turn) (ended : World κ σ ε) : World κ σ ε :=
  match turn.panic? with
  | none => ended
  | some payload => ended.record (.panicked payload)

/-- A panic is logged with one line, behind what was logged in the turn. -/
theorem log_settle (turn : Turn) (ended : World κ σ ε) :
    (turn.settle ended).log = ended.log ++ turn.panic?.toList.map Payload.logLine := by
  rw [settle]
  cases turn.panic? with
  | none => exact (List.append_nil _).symm
  | some payload => rw [World.log_record, Event.logLine?_panicked]; rfl

private theorem runs_settle (turn : Turn) (ended : World κ σ ε) : (turn.settle ended).runs = ended.runs := by
  rw [settle]
  cases turn.panic? with
  | none => rfl
  | some payload => rfl

private theorem nextPass_settle (turn : Turn) (ended : World κ σ ε) :
    (turn.settle ended).nextPass = ended.nextPass := by
  rw [settle]
  cases turn.panic? with
  | none => rfl
  | some payload => rfl

end Turn

namespace Run

variable {observe : α → Run κ σ ε Unit} {pass : Nat} {channel : Channel}

/-- Observers have their turns, one after the other. -/
inductive Tells (observe : α → Run κ σ ε Unit) (pass : Nat) (channel : Channel) :
    List (Nat × α) → List Turn → World κ σ ε → World κ σ ε → Prop
  | nil (world : World κ σ ε) : Tells observe pass channel [] [] world world
  | cons {id : Nat} {observer : α} {more : List (Nat × α)} {turn : Turn} {turns : List Turn}
      {world ended after : World κ σ ε}
      (hran : (observe observer).exec (world.record (.ran pass channel id (world.sightAt? channel))) =
        (turn.ending, ended))
      (hsaid : ended.log = world.log ++ turn.said)
      (hmore : Tells observe pass channel more turns (turn.settle ended) after) :
      Tells observe pass channel ((id, observer) :: more) (turn :: turns) world after

/-- How a pass over observers ends: all of them have had their turns, or one has run out of depth. Those that are
registered when it starts have their turn, whatever they do to the registrations, whichever passes they start
themselves, and whichever of them panic. -/
inductive Notifies (observe : α → Run κ σ ε Unit) (pass : Nat) (channel : Channel) (observers : List (Nat × α))
    (world : World κ σ ε) : Except Stop Unit → World κ σ ε → Prop
  | told {turns : List Turn} {after : World κ σ ε} (htells : Tells observe pass channel observers turns world after) :
      Notifies observe pass channel observers world (.ok ()) after
  | cutOff {before later : List (Nat × α)} {id : Nat} {observer : α} {turns : List Turn}
      {middle after : World κ σ ε} (hobservers : observers = before ++ (id, observer) :: later)
      (hbefore : Tells observe pass channel before turns world middle)
      (hran : (observe observer).exec (middle.record (.ran pass channel id (middle.sightAt? channel))) =
        (.error .exhausted, after)) : Notifies observe pass channel observers world (.error .exhausted) after

section Turns

/-- An observer that ends has its turn, and the next one goes on from there. -/
theorem exec_runObservers_cons {id : Nat} {observer : α} (more : List (Nat × α)) {turn : Turn}
    {world ended : World κ σ ε}
    (hran : (observe observer).exec (world.record (.ran pass channel id (world.sightAt? channel))) =
      (turn.ending, ended)) :
    (runObservers pass channel observe ((id, observer) :: more)).exec world =
      (runObservers pass channel observe more).exec (turn.settle ended) := by
  have hcontained : (contain (observe observer)).exec
      (world.record (.ran pass channel id (world.sightAt? channel))) = (.ok (), turn.settle ended) := by
    rw [exec_contain, hran, Turn.ending, Turn.settle]
    cases turn.panic? with
    | none => rfl
    | some payload => rfl
  rw [runObservers, recordRan, exec_bind_ok (exec_modify _ world), exec_bind_ok hcontained]

private theorem Notifies.cons {id : Nat} {observer : α} {more : List (Nat × α)} {turn : Turn}
    {world ended after : World κ σ ε} {answer : Except Stop Unit}
    (hran : (observe observer).exec (world.record (.ran pass channel id (world.sightAt? channel))) =
      (turn.ending, ended))
    (hsaid : ended.log = world.log ++ turn.said)
    (hmore : Notifies observe pass channel more (turn.settle ended) answer after) :
    Notifies observe pass channel ((id, observer) :: more) world answer after := by
  cases hmore with
  | told htells => exact .told (.cons hran hsaid htells)
  | cutOff hobservers hbefore hcut => exact .cutOff (congrArg _ hobservers) (.cons hran hsaid hbefore) hcut

/-- Running observers comes to turns of theirs, as long as they only add to the journal. -/
theorem notifies_runObservers
    (hgrows : ∀ observer, Within (fun world after => ∃ events, after.journal = events ++ world.journal)
      (observe observer)) (observers : List (Nat × α)) (world : World κ σ ε) :
    ∃ answer after, (runObservers pass channel observe observers).exec world = (answer, after) ∧
      Notifies observe pass channel observers world answer after := by
  induction observers generalizing world with
  | nil => exact ⟨.ok (), world, rfl, .told (.nil world)⟩
  | cons first more ih =>
    obtain ⟨id, observer⟩ := first
    let started : World κ σ ε := world.record (.ran pass channel id (world.sightAt? channel))
    have hstarted : started.log = world.log := (World.log_record world _).trans (List.append_nil _)
    -- An observer that ends, with a panic or without one, has added to the log.
    have hturn (panic? : Option Payload) {ended : World κ σ ε}
        (hran : (observe observer).exec started = ((Turn.mk [] panic?).ending, ended)) :
        ∃ answer after, (runObservers pass channel observe ((id, observer) :: more)).exec world = (answer, after) ∧
          Notifies observe pass channel ((id, observer) :: more) world answer after := by
      have hgrown := hgrows observer started
      rw [Leads, hran] at hgrown
      obtain ⟨events, hjournal⟩ := hgrown (Turn.ending_ne_exhausted _)
      let turn : Turn := ⟨events.reverse.filterMap Event.logLine?, panic?⟩
      have hended : (observe observer).exec started = (turn.ending, ended) := hran
      have hsaid : ended.log = world.log ++ turn.said := hstarted ▸ World.log_of_journal_eq hjournal
      obtain ⟨answer, after, hexec, hmore⟩ := ih (turn.settle ended)
      exact ⟨answer, after, (exec_runObservers_cons more hended).trans hexec, .cons hended hsaid hmore⟩
    rcases hran : (observe observer).exec started with ⟨(payload | _) | ⟨⟩, ended⟩
    · exact hturn (some payload) hran
    · have hcut : (contain (observe observer)).exec started = (.error .exhausted, ended) := by
        rw [exec_contain, hran]
      refine ⟨.error .exhausted, ended, ?_, .cutOff (List.nil_append _).symm (.nil world) hran⟩
      rw [runObservers, recordRan, exec_bind_ok (exec_modify _ world), exec_bind, hcut]
    · exact hturn none hran

/-- What is logged in a pass is what is logged in its turns. -/
theorem Tells.log_eq {observers : List (Nat × α)} {turns : List Turn} {world after : World κ σ ε}
    (h : Tells observe pass channel observers turns world after) :
    after.log = world.log ++ turns.flatMap Turn.lines := by
  induction h with
  | nil world => exact (List.append_nil _).symm
  | cons _ hsaid _ ih =>
    rw [ih, Turn.log_settle, hsaid, List.flatMap_cons, Turn.lines]
    simp only [List.append_assoc]

/-- In a pass the observers run that have their turns in it, and no others. -/
theorem Tells.runsIn_eq (hrenews : ∀ observer, Within (Renews (pass + 1)) (observe observer))
    {observers : List (Nat × α)} {turns : List Turn} {world after : World κ σ ε}
    (h : Tells observe pass channel observers turns world after) (hpass : pass < world.nextPass) :
    after.runsIn pass = world.runsIn pass ++ observers.map fun observer => (channel, observer.1) := by
  induction h with
  | nil world => exact (List.append_nil _).symm
  | @cons id observer more turn turns world ended after hran _ _ ih =>
    obtain ⟨hlater, hended⟩ := runsIn_of_ran (hrenews observer) hpass hran turn.ending_ne_exhausted
    rw [ih (turn.nextPass_settle ended ▸ hlater), World.runsIn_of_runs_eq (turn.runs_settle ended), hended,
      List.append_assoc]
    rfl

end Turns

/-- A pass runs those who are registered when it starts. -/
theorem exec_notify (channel : Channel) (observe : α → Run κ σ ε Unit) (registry : Registry α) (world : World κ σ ε) :
    (notify channel observe registry).exec world =
      (runObservers world.nextPass channel observe registry.entries).exec (world.withPass channel) := rfl

private theorem exec_notifySet {invoke : Invoke κ σ ε} {set : SetId} {world : World κ σ ε} {observers : Registry κ}
    (hset : world.sets[set]? = some observers) :
    (notifySet invoke set).exec world = (notify (.observers set) (perform invoke) observers).exec world := by
  rw [notifySet, exec_get_bind, hset]

/-- What observers do when they are told, where `listener` says who they are. -/
abbrev observing (host : Host κ σ ε) (depth : Nat) (listener : α → Listener κ) (observer : α) : Run κ σ ε Unit :=
  hear (invoke host depth) (listener observer)

private theorem renews_observing (first : Nat) (host : Host κ σ ε) (depth : Nat) (listener : α → Listener κ)
    (observer : α) : Within (Renews first) (observing host depth listener observer) :=
  renews_hear (renews_invoke host depth) (listener observer)

/-- What observers do adds to the journal only. -/
theorem grows_observing (host : Host κ σ ε) (depth : Nat) (listener : α → Listener κ) (observer : α) :
    Within (fun world after => ∃ events, after.journal = events ++ world.journal)
      (observing host depth listener observer) := by
  refine within_mono (fun hrenews => ?_) (renews_observing 0 host depth listener observer)
  obtain ⟨-, events, hjournal, -⟩ := hrenews (Nat.zero_le _)
  exact ⟨events, hjournal⟩

/-- A pass over observers, be they callbacks of the host or routers that follow the history, ends without a panic,
unless one of them calls for deeper callbacks than the run allows. Those that were registered when it started have had
one turn each by then, in the order of their registration, and no one else ran in this pass, whatever they did to the
registrations and whichever passes they started themselves. What was logged is what was logged in their turns, which is
what each of them had logged and one line more about those that panicked. -/
theorem notify_runs_registered (host : Host κ σ ε) (depth : Nat) (listener : α → Listener κ) (channel : Channel)
    (registry : Registry α) (world : World κ σ ε) :
    (∃ turns after, (notify channel (observing host depth listener) registry).exec world = (.ok (), after) ∧
      Tells (observing host depth listener) world.nextPass channel registry.entries turns (world.withPass channel)
        after ∧
      after.runsIn world.nextPass =
        world.runsIn world.nextPass ++ registry.entries.map (fun entry => (channel, entry.1)) ∧
      after.log = world.log ++ turns.flatMap Turn.lines) ∨
    ∃ after, (notify channel (observing host depth listener) registry).exec world = (.error .exhausted, after) ∧
      Notifies (observing host depth listener) world.nextPass channel registry.entries (world.withPass channel)
        (.error .exhausted) after := by
  obtain ⟨answer, after, hexec, hnotifies⟩ :=
    notifies_runObservers (grows_observing host depth listener) registry.entries (world.withPass channel)
  rw [← exec_notify] at hexec
  cases answer with
  | error stop =>
    right
    cases hnotifies with
    | cutOff hobservers hbefore hran => exact ⟨after, hexec, .cutOff hobservers hbefore hran⟩
  | ok =>
    left
    cases hnotifies with
    | @told turns _ htells =>
      refine ⟨turns, after, hexec, htells, ?_, ?_⟩
      · exact htells.runsIn_eq (renews_observing _ host depth listener) (Nat.lt_succ_self world.nextPass)
      · have hstarted : (world.withPass channel).log = world.log := (World.log_record _ _).trans (List.append_nil _)
        rw [htells.log_eq, hstarted]

end Run

/-- Members of a set: one removes the registration of another, one panics, and one puts one more into the set and starts
a pass over it, but only once. -/
inductive Member where
  | quitter
  | grumbler
  | recruiter
  deriving DecidableEq

/-- The host of the club. -/
def clubHost : Host Member Bool Unit where
  respond
    | .quitter, _ => .ask (.unsubscribe ⟨.observers 0, 1⟩) fun _ => .done false
    | .grumbler, _ => .panic .value
    | .recruiter, _ => .inspect fun world =>
      if world.memory then .done false
      else .remember (fun _ => true) (.ask (.subscribe (.observers 0) .grumbler) fun _ =>
        .ask (.notify 0) fun _ => .done false)
  refusal _ := none

/-- Opens a set with one member of each kind. -/
def openClub : Program Member Bool Unit Unit :=
  .ask .openSet fun set =>
    .ask (.subscribe (.observers set) .quitter) fun _ =>
      .ask (.subscribe (.observers set) .grumbler) fun _ =>
        .ask (.subscribe (.observers set) .recruiter) fun _ => .done ()

/-- The start of the session. -/
def clubStart : World Member Bool Unit where
  history := .single ⟨"o", "a", "a", "", ""⟩
  memory := false

/-- The session with three members in the club. -/
def clubSession : World Member Bool Unit :=
  (openClub.run clubHost 0 clubStart).2

/-- The member that was removed in the meantime has its turn, and the one that was added has none in this pass, but one
in the pass that starts inside of it. Each of the two panics is logged. -/
theorem Run.notify_runs_registered_clubSession :
    ∃ after, (notifySet (invoke clubHost 3) 0).exec clubSession = (.ok (), after) ∧
      after.runsIn 0 = [(.observers 0, 0), (.observers 0, 1), (.observers 0, 2)] ∧
      after.runsIn 1 = [(.observers 0, 0), (.observers 0, 2), (.observers 0, 3)] ∧
      after.log = [Payload.value.logLine, Payload.value.logLine] := by
  obtain ⟨observers, hset, hentries⟩ : ∃ observers, clubSession.sets[0]? = some observers ∧
      observers.entries = [(0, .quitter), (1, .grumbler), (2, .recruiter)] :=
    Option.map_eq_some_iff.1 (by decide +kernel)
  have hok : ((notifySet (invoke clubHost 3) 0).exec clubSession).1.isOk = true := by decide +kernel
  have hinner : ((notifySet (invoke clubHost 3) 0).exec clubSession).2.runsIn 1 =
      [(.observers 0, 0), (.observers 0, 2), (.observers 0, 3)] := by decide +kernel
  have hlog : ((notifySet (invoke clubHost 3) 0).exec clubSession).2.log =
      [Payload.value.logLine, Payload.value.logLine] := by decide +kernel
  rw [exec_notifySet hset] at hok hinner hlog ⊢
  rcases notify_runs_registered clubHost 3 .host (.observers 0) observers clubSession with
    ⟨-, after, hexec, -, hruns, -⟩ | ⟨after, hexec, -⟩
  · have hexec : (notify (.observers 0) (perform (invoke clubHost 3)) observers).exec clubSession = (.ok (), after) :=
      hexec
    rw [hexec] at hinner hlog
    rw [hentries] at hruns
    exact ⟨after, hexec, hruns, hinner, hlog⟩
  · have hexec : (notify (.observers 0) (perform (invoke clubHost 3)) observers).exec clubSession =
        (.error .exhausted, after) := hexec
    rw [hexec] at hok
    cases hok

end PageRouter
