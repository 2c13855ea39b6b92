import PageRouter.Proofs.Session.Journal
import PageRouter.Proofs.Session.Zipper

namespace PageRouter

variable {κ σ ε α : Type}

/-- Events, latest first, that lead from one zipper to another. Each change is written down when it has been made,
and a pass over the listeners starts right then and at no other time. -/
inductive Traced : Zipper → List (Event ε) → Zipper → Prop
  | nil (zipper : Zipper) : Traced zipper [] zipper
  | aside {first last : Zipper} {events : List (Event ε)} {event : Event ε} (hkeeps : event.KeepsHistory)
      (htraced : Traced first events last) : Traced first (event :: events) last
  | change {first middle last : Zipper} {events : List (Event ε)} (pass : Nat) (hnext : middle.Next last)
      (htraced : Traced first events middle) :
      Traced first (.passStarted pass .changes :: .changed last.current :: events) last

/-- What leads from one zipper to another, and on from there, leads all the way. -/
theorem Traced.append {first middle last : Zipper} {earlier later : List (Event ε)}
    (hearlier : Traced first earlier middle) (hlater : Traced middle later last) :
    Traced first (later ++ earlier) last := by
  induction hlater with
  | nil => exact hearlier
  | aside hkeeps _ ih => exact .aside hkeeps ih
  | change pass hnext _ ih => exact .change pass hnext ih

/-- Events that say nothing of the history lead nowhere. -/
theorem Traced.of_keepsHistory (zipper : Zipper) {events : List (Event ε)}
    (hkeeps : ∀ event ∈ events, event.KeepsHistory) : Traced zipper events zipper := by
  induction events with
  | nil => exact .nil zipper
  | cons event events ih =>
    have hrest := ih fun other hother => hkeeps other (List.mem_cons_of_mem _ hother)
    exact .aside (hkeeps event List.mem_cons_self) hrest

/-- What becomes of a history at once becomes of its zipper. -/
theorem History.Next.zipper {history after : History} (hnext : history.Next after) :
    history.zipper.Next after.zipper := by
  cases hnext with
  | commit action entry =>
    rw [zipper_commit]
    cases action with
    | push => exact .push entry
    | replace => exact .replace entry
  | @move delta _ hmove =>
    have hgo := history.go?_zipper delta
    rw [hmove] at hgo
    exact .go hgo

namespace Run

/-- The journal goes on, and accounts for what became of the history. A call that records an entry or that moves puts
the changed history in place first, and then starts one pass over the listeners; while that goes on, the listeners may
travel themselves. Nothing else changes the history, or starts such a pass. -/
def Travels (world after : World κ σ ε) : Prop :=
  ∃ events, after.journal = events ++ world.journal ∧ Traced world.history.zipper events after.history.zipper

private theorem Travels.of_keepsHistory {world after : World κ σ ε} (events : List (Event ε))
    (hjournal : after.journal = events ++ world.journal) (hhistory : after.history = world.history)
    (hkeeps : ∀ event ∈ events, event.KeepsHistory) : Travels world after := by
  refine ⟨events, hjournal, ?_⟩
  rw [hhistory]
  exact .of_keepsHistory _ hkeeps

private theorem travels_record (world : World κ σ ε) {event : Event ε} (hkeeps : event.KeepsHistory) :
    Travels world (world.record event) :=
  .of_keepsHistory [event] rfl rfl (by simpa using hkeeps)

private theorem travels_fail (world : World κ σ ε) (router : RouterId) (error : RouteError) :
    Travels world (world.fail router error) :=
  .of_keepsHistory [.syncFailed router error] rfl rfl (by simp [Event.KeepsHistory])

private theorem chains_travels : Chains (Travels : World κ σ ε → World κ σ ε → Prop) where
  refl world := .of_keepsHistory [] rfl rfl (by simp)
  trans hfirst hsecond := by
    obtain ⟨earlier, hjournal, htraced⟩ := hfirst
    obtain ⟨later, hjournal', htraced'⟩ := hsecond
    refine ⟨later ++ earlier, ?_, htraced.append htraced'⟩
    rw [hjournal', hjournal, List.append_assoc]

private theorem unguarded_travels : Unguarded (Travels : World κ σ ε → World κ σ ε → Prop) where
  toChains := chains_travels
  guarding _ _ _ := .of_keepsHistory [] rfl rfl (by simp)
  unwound world _ := travels_record world trivial

/-- No step of a reconciliation changes the history. -/
theorem following_travels : Following (Travels : World κ σ ε → World κ σ ε → Prop) where
  toSteady := unguarded_travels.steady chains_travels.widens fun hslight => by
    obtain ⟨events, hjournal, hkeeps⟩ := hslight.events
    exact .of_keepsHistory events hjournal hslight.minor.history fun event hevent => (hkeeps event hevent).keepsHistory
  look world := travels_record world trivial
  step world event hstep := travels_record world (by cases event <;> first | exact hstep.elim | trivial)
  relocate world router :=
    .of_keepsHistory [] (world.journal_relocate router) (world.history_relocate router) (by simp)
  replaceRoute {world} {router} {r} {route} hrouter _ := by
    obtain ⟨stored, -, -, hjournal⟩ := World.getElem?_replaceRoute_self route hrouter
    refine .of_keepsHistory [.routeReplaced router r.route stored] hjournal ?_ (by simp [Event.KeepsHistory])
    exact world.history_replaceRoute router route

/-- A change is announced when it has been made, by one pass over the listeners. -/
theorem travels_announce {invoke : Invoke κ σ ε} (hinvoke : ∀ callback told, Within Travels (invoke callback told))
    {world : World κ σ ε} {history : History} (hnext : world.history.Next history) :
    Leads Travels (announce invoke history) world := by
  have hstarted : Travels world ({ world with history, nextPass := world.nextPass + 1 }.record
      (.changed history.current) |>.record (.passStarted world.nextPass .changes)) :=
    ⟨[.passStarted world.nextPass .changes, .changed history.current], rfl, .change _ hnext.zipper (.nil _)⟩
  have hhear (listener : Listener κ) : Within Travels (hear invoke listener) :=
    within_hear chains_travels.graded hinvoke (fun _ => ())
      (following_travels.within_follow (fun _ => travels_fail _ _) hinvoke) listener
  have htold : Within Travels (runObservers world.nextPass .changes (hear invoke) world.changes.entries) :=
    within_runObservers chains_travels.graded (fun _ => ()) (fun _ => ())
      (fun _ world => travels_record world trivial) (fun _ world => travels_record world trivial)
      world.changes.entries fun entry _ => hhear entry.2
  exact fun hends => chains_travels.trans hstarted (htold _ hends)

/-- Over a whole run, the journal accounts for what became of the history. -/
theorem lasting_travels : Lasting (Travels : World κ σ ε → World κ σ ε → Prop) where
  toSteady := following_travels.toSteady
  look := following_travels.look
  announce := travels_announce
  sync := following_travels.within_syncAsked

section Calls

variable (invoke : Invoke κ σ ε) (world : World κ σ ε)

/-- Puts a changed history in place, and then makes one pass over those who listen by then. -/
theorem exec_announce (history : History) :
    (announce invoke history).exec world =
      (notify .changes (hear invoke) world.changes).exec
        ({ world with history }.record (.changed history.current)) := rfl

/-- A path that cannot be followed changes nothing and tells nobody. -/
theorem exec_commit_of_error {host : Host κ σ ε} {path : String} {error : RouteError}
    (hjoin : host.join world.history.location path = .error error) (action : Action) (state : EntryState) :
    (commit host invoke action state path).exec world = (.ok (.error error), world) := by
  rw [commit, exec_get_bind, hjoin]
  rfl

/-- A path that can be followed is recorded, and the change is announced. -/
theorem exec_commit_of_ok {host : Host κ σ ε} {path : String} {location : Location}
    (hjoin : host.join world.history.location path = .ok location) (action : Action) (state : EntryState) :
    (commit host invoke action state path).exec world =
      ((announce invoke (world.history.commit action { location, state := some state })).exec world).map
        (Except.map .ok) id := by
  rw [commit, exec_get_bind, hjoin]
  dsimp only
  rw [exec_bind]
  rcases (announce invoke _).exec world with ⟨stop | ⟨⟩, after⟩ <;> rfl

/-- A move beyond the ends changes nothing and tells nobody. -/
theorem exec_go_of_none {delta : Int} (hmove : world.history.move? delta = none) :
    (go invoke delta).exec world = (.ok (), world) := by
  rw [go, exec_get_bind, hmove]
  rfl

private theorem exec_go_of_some {delta : Int} {history : History} (hmove : world.history.move? delta = some history) :
    (go invoke delta).exec world = (announce invoke history).exec world := by
  rw [go, exec_get_bind, hmove]

end Calls

/-- A history is a zipper, and calls do to it what they do to the zipper: a path that cannot be followed and a
move beyond the ends change nothing and tell nobody, and any other call puts the history with the changed zipper
in place and then makes one pass over the listeners. Over a whole run, in which listeners may call in turn, the
journal shows the changes one after the other, each with its pass and with no other pass in between. -/
theorem refines_zipper (host : Host κ σ ε) (depth : Nat) (world : World κ σ ε) :
    (world.history.entries =
        world.history.zipper.past.reverse ++ world.history.zipper.current :: world.history.zipper.future ∧
      world.history.index = world.history.zipper.past.length) ∧
    (∀ action state path,
      (∀ error, host.join world.history.location path = .error error →
        (commit host (invoke host depth) action state path).exec world = (.ok (.error error), world)) ∧
      (∀ location, host.join world.history.location path = .ok location → ∃ history,
        history.zipper = world.history.zipper.record action { location, state := some state } ∧
        (commit host (invoke host depth) action state path).exec world =
          ((notify .changes (hear (invoke host depth)) world.changes).exec
            ({ world with history }.record (.changed history.current))).map (Except.map .ok) id)) ∧
    (∀ delta,
      (world.history.zipper.go? delta = none → (go (invoke host depth) delta).exec world = (.ok (), world)) ∧
      (∀ zipper, world.history.zipper.go? delta = some zipper → ∃ history, history.zipper = zipper ∧
        (go (invoke host depth) delta).exec world =
          (notify .changes (hear (invoke host depth)) world.changes).exec
            ({ world with history }.record (.changed history.current)))) ∧
    (∀ program : Program κ σ ε α, (program.run host depth world).1 ≠ .error .exhausted →
      ∃ events, (program.run host depth world).2.journal = events ++ world.journal ∧
        Traced world.history.zipper events (program.run host depth world).2.history.zipper) := by
  refine ⟨world.history.entries_eq_zipper, fun action state path => ⟨?_, ?_⟩, fun delta => ⟨?_, ?_⟩, ?_⟩
  · exact fun error hjoin => exec_commit_of_error _ world hjoin action state
  · intro location hjoin
    refine ⟨world.history.commit action { location, state := some state }, History.zipper_commit _ _ _, ?_⟩
    rw [exec_commit_of_ok _ world hjoin, exec_announce]
  · intro hgo
    rw [History.go?_zipper, Option.map_eq_none_iff] at hgo
    exact exec_go_of_none _ world hgo
  · intro zipper hgo
    rw [History.go?_zipper, Option.map_eq_some_iff] at hgo
    obtain ⟨history, hmove, hzipper⟩ := hgo
    refine ⟨history, hzipper, ?_⟩
    rw [exec_go_of_some _ world hmove, exec_announce]
  · exact fun program hends => lasting_travels.run host depth program hends

end Run

/-- A host that goes to `c` the first time that it is told of a change. Paths are followed by taking them over, but
for the empty one. -/
def wanderHost : Host Unit Bool Unit where
  respond _ _ := .inspect fun world =>
    if world.memory then .done false
    else .remember (fun _ => true) (.ask (.commit .push { path := "c" } "c") fun _ => .done false)
  refusal _ := none
  join _ path := if path = "" then .error (.invalidLocation path (.refused "empty")) else .ok ⟨"o", path, path, "", ""⟩

/-- Goes to `b`, and back by one entry. -/
def wander : Program Unit Bool Unit Unit :=
  .ask (.subscribe .changes ()) fun _ =>
    .ask (.commit .push { path := "b" } "b") fun _ => .ask (.go (-1)) .done

/-- The start of the session, at `a`. -/
def wanderStart : World Unit Bool Unit where
  history := .single ⟨"o", "a", "a", "", ""⟩
  memory := false

/-- The session after that. -/
def wanderEnd : World Unit Bool Unit :=
  (wander.run wanderHost 2 wanderStart).2

/-- The entry of a visit. -/
def visit (path : String) : Entry :=
  ⟨⟨"o", path, path, "", ""⟩, some { path }⟩

/-- The host went to `c` while it was told of `b`, so that one entry back from there is `b`. -/
theorem wanderEnd_refines_zipper :
    (∃ events, wanderEnd.journal = events ++ wanderStart.journal ∧
      Traced wanderStart.history.zipper events wanderEnd.history.zipper) ∧
    wanderEnd.history.zipper = ⟨[wanderStart.history.current], visit "b", [visit "c"]⟩ ∧
    (Run.go (Run.invoke wanderHost 2) 2).exec wanderEnd = (.ok (), wanderEnd) ∧
    (∃ history, history.zipper = ⟨[visit "b", wanderStart.history.current], visit "c", []⟩ ∧
      (Run.go (Run.invoke wanderHost 2) 1).exec wanderEnd =
        (Run.notify .changes (Run.hear (Run.invoke wanderHost 2)) wanderEnd.changes).exec
          ({ wanderEnd with history }.record (.changed history.current))) ∧
    (Run.commit wanderHost (Run.invoke wanderHost 2) .push { path := "" } "").exec wanderEnd =
      (.ok (.error (.invalidLocation "" (.refused "empty"))), wanderEnd) ∧
    ∃ history, history.zipper = ⟨[visit "b", wanderStart.history.current], visit "d", []⟩ ∧
      (Run.commit wanderHost (Run.invoke wanderHost 2) .push { path := "d" } "d").exec wanderEnd =
        ((Run.notify .changes (Run.hear (Run.invoke wanderHost 2)) wanderEnd.changes).exec
          ({ wanderEnd with history }.record (.changed history.current))).map (Except.map .ok) id := by
  have hends : (wander.run wanderHost 2 wanderStart).1 ≠ .error .exhausted := by
    intro hexhausted
    have hends : (wander.run wanderHost 2 wanderStart).1.isOk = true := by decide +kernel
    rw [hexhausted] at hends
    cases hends
  have hzipper : wanderEnd.history.zipper = ⟨[wanderStart.history.current], visit "b", [visit "c"]⟩ := by
    decide +kernel
  have hstay : wanderEnd.history.zipper.go? 2 = none := by rw [hzipper]; rfl
  have hmove : wanderEnd.history.zipper.go? 1 =
      some ⟨[visit "b", wanderStart.history.current], visit "c", []⟩ := by rw [hzipper]; rfl
  have hpush : wanderEnd.history.zipper.record .push (visit "d") =
      ⟨[visit "b", wanderStart.history.current], visit "d", []⟩ := by rw [hzipper]; rfl
  have hjoin (location : Location) : wanderHost.join location "d" = .ok (visit "d").location := by
    simp [wanderHost, visit]
  have hrefused (location : Location) :
      wanderHost.join location "" = .error (.invalidLocation "" (.refused "empty")) := by
    simp [wanderHost]
  obtain ⟨-, -, -, hrun⟩ := Run.refines_zipper wanderHost 2 wanderStart (α := Unit)
  obtain ⟨-, hcommit, hgo, -⟩ := Run.refines_zipper wanderHost 2 wanderEnd (α := Unit)
  have hrun := hrun wander hends
  rw [← wanderEnd] at hrun
  refine ⟨hrun, hzipper, (hgo 2).1 hstay, (hgo 1).2 _ hmove, (hcommit .push { path := "" } "").1 _ (hrefused _), ?_⟩
  rw [← hpush]
  exact (hcommit .push { path := "d" } "d").2 _ (hjoin _)

end PageRouter
