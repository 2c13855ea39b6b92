import PageRouter.Proofs.Session.Standing
import PageRouter.Proofs.Session.Reached

namespace PageRouter

variable {κ σ ε α : Type}

/-- A session after a pass over the callbacks at a channel was started. -/
abbrev World.withPass (world : World κ σ ε) (channel : Channel) : World κ σ ε :=
  { world with nextPass := world.nextPass + 1 }.record (.passStarted world.nextPass channel)

namespace Run

/-- Callbacks are asked in order, and all of them say no. -/
inductive Declines (ask : α → Run κ σ ε Bool) (pass : Nat) (channel : Channel) :
    List (Nat × α) → World κ σ ε → World κ σ ε → Prop
  | nil (world : World κ σ ε) : Declines ask pass channel [] world world
  | cons {id : Nat} {callback : α} {more : List (Nat × α)} {world middle after : World κ σ ε}
      (hasked : (ask callback).exec (world.record (.ran pass channel id (world.sightAt? channel))) =
        (.ok false, middle))
      (hmore : Declines ask pass channel more middle after) :
      Declines ask pass channel ((id, callback) :: more) world after

/-- How asking callbacks ends: all have said no, or a first one has not, and those behind it are not asked. What they
do to the chain in the meantime does not matter, since the chain is the one of the start. -/
inductive Asks (ask : α → Run κ σ ε Bool) (pass : Nat) (channel : Channel) (chain : List (Nat × α))
    (world : World κ σ ε) : Except Stop Bool → World κ σ ε → Prop
  | declined {after : World κ σ ε} (hdeclined : Declines ask pass channel chain world after) :
      Asks ask pass channel chain world (.ok false) after
  | stopped {before later : List (Nat × α)} {id : Nat} {callback : α} {middle after : World κ σ ε}
      {answer : Except Stop Bool} (hchain : chain = before ++ (id, callback) :: later)
      (hbefore : Declines ask pass channel before world middle)
      (hasked : (ask callback).exec (middle.record (.ran pass channel id (middle.sightAt? channel))) =
        (answer, after))
      (hanswer : answer ≠ .ok false) : Asks ask pass channel chain world answer after

section Chain

variable {ask : α → Run κ σ ε Bool} {pass : Nat} {channel : Channel}

private theorem exec_askUntilYes_cons (id : Nat) (callback : α) (more : List (Nat × α)) (world : World κ σ ε) :
    (askUntilYes pass channel ask ((id, callback) :: more)).exec world =
      match (ask callback).exec (world.record (.ran pass channel id (world.sightAt? channel))) with
      | (.ok false, middle) => (askUntilYes pass channel ask more).exec middle
      | (answer, after) => (answer, after) := by
  rw [askUntilYes, recordRan, exec_bind_ok (exec_modify _ world), exec_bind]
  rcases (ask callback).exec _ with ⟨stop | answer, after⟩
  · rfl
  · cases answer <;> rfl

/-- Those who say no hand on to those behind them. -/
theorem Declines.exec_append {before : List (Nat × α)} {world middle : World κ σ ε}
    (h : Declines ask pass channel before world middle) (later : List (Nat × α)) :
    (askUntilYes pass channel ask (before ++ later)).exec world =
      (askUntilYes pass channel ask later).exec middle := by
  induction h with
  | nil => rfl
  | cons hasked _ ih =>
    rw [List.cons_append, exec_askUntilYes_cons, hasked]
    exact ih

/-- Behind one that said no, the others are asked in turn. -/
theorem Asks.cons {id : Nat} {callback : α} {more : List (Nat × α)} {world middle after : World κ σ ε}
    {answer : Except Stop Bool}
    (hasked : (ask callback).exec (world.record (.ran pass channel id (world.sightAt? channel))) =
      (.ok false, middle))
    (hmore : Asks ask pass channel more middle answer after) :
    Asks ask pass channel ((id, callback) :: more) world answer after := by
  cases hmore with
  | declined hdeclined => exact .declined (.cons hasked hdeclined)
  | stopped hchain hbefore hstopped hanswer =>
    exact .stopped (congrArg _ hchain) (.cons hasked hbefore) hstopped hanswer

/-- Asking callbacks comes to an answer and a session exactly if they are asked in order, each once, up to the first
one that does not say no. -/
theorem askUntilYes_eq_iff {chain : List (Nat × α)} {world after : World κ σ ε} {answer : Except Stop Bool} :
    (askUntilYes pass channel ask chain).exec world = (answer, after) ↔
      Asks ask pass channel chain world answer after := by
  constructor
  · intro hexec
    induction chain generalizing world with
    | nil =>
      cases hexec
      exact .declined (.nil _)
    | cons first more ih =>
      obtain ⟨id, callback⟩ := first
      rw [exec_askUntilYes_cons] at hexec
      -- A stop and a yes end the asking, and leave the rest of the chain unasked; a no goes on.
      rcases hasked : (ask callback).exec _ with ⟨stop | (_ | _), middle⟩
      · rw [hasked] at hexec
        cases hexec
        exact .stopped rfl (.nil _) hasked nofun
      · rw [hasked] at hexec
        exact .cons hasked (ih hexec)
      · rw [hasked] at hexec
        cases hexec
        exact .stopped rfl (.nil _) hasked nofun
  · intro h
    cases h with
    | declined hdeclined =>
      have hexec := hdeclined.exec_append []
      rwa [List.append_nil] at hexec
    | @stopped before later id callback middle _ _ hchain hbefore hasked hanswer =>
      rw [hchain, hbefore.exec_append, exec_askUntilYes_cons, hasked]
      rcases answer with stop | (_ | _)
      · rfl
      · exact absurd rfl hanswer
      · rfl

end Chain

/-- How asking the blockers of a guard whether a navigation may go on ends. They are those that are registered when it
starts. -/
def Consults (invoke : Invoke κ σ ε) (guard : GuardId) (g : Guard κ) (world : World κ σ ε) :
    Except Stop Bool → World κ σ ε → Prop :=
  Asks (invoke · true) world.nextPass (.blockers guard) g.blockers.entries (world.withPass (.blockers guard))

/-- Asking the blockers of a guard ends as asking those does that are registered when it starts. -/
theorem askBlockers_eq_iff {invoke : Invoke κ σ ε} {guard : GuardId} {g : Guard κ} {world after : World κ σ ε}
    {answer : Except Stop Bool} (hguard : world.guards[guard]? = some g) :
    (askBlockers invoke guard true).exec world = (answer, after) ↔ Consults invoke guard g world answer after := by
  rw [askBlockers, exec_get_bind, hguard]
  exact askUntilYes_eq_iff

section Order

/-- Where the blockers of all guards were in the order of their registration, they still are. -/
def KeepsOrder (world after : World κ σ ε) : Prop :=
  (∀ guard, (world.guardAt guard).blockers.Ordered) → ∀ guard, (after.guardAt guard).blockers.Ordered

private theorem keepsOrder_of_guardAt_eq {world after : World κ σ ε}
    (hguards : ∀ guard, after.guardAt guard = world.guardAt guard) : KeepsOrder world after := by
  intro hordered guard
  rw [hguards]
  exact hordered guard

private theorem chains_keepsOrder : Chains (KeepsOrder : World κ σ ε → World κ σ ε → Prop) where
  refl _ := id
  trans hfirst hsecond hordered := hsecond (hfirst hordered)

/-- A blocker that is added comes behind all others, and one that is removed leaves them in order. -/
theorem keepsOrder_modifyGuard (world : World κ σ ε) (acting : GuardId) {f : Guard κ → Guard κ}
    (hmends : MendsChain f) : KeepsOrder world (world.modifyGuard acting f) := by
  intro hordered guard
  have hguard := hordered guard
  rw [World.guardAt] at hguard ⊢
  rw [World.modifyGuard, List.getElem?_modify]
  rcases hfound : world.guards[guard]? with _ | g
  · rwa [hfound] at hguard
  · rw [hfound] at hguard
    have hguard : g.blockers.Ordered := hguard
    dsimp only [Option.map_eq_map, Option.map_some, Option.getD_some]
    split
    · rcases hmends g with hsame | hchanged
      · exact hsame.symm ▸ hguard
      · exact hguard.changed hchanged
    · exact hguard

private theorem chaining_keepsOrder : Chaining (KeepsOrder : World κ σ ε → World κ σ ε → Prop) where
  toChains := chains_keepsOrder
  modifyGuard world guard _ hmends := keepsOrder_modifyGuard world guard hmends
  unloading _ _ := id
  unwound _ _ := id

/-- Every step of a run leaves the blockers of all guards in the order of their registration. -/
theorem stepwise_keepsOrder : Stepwise (KeepsOrder : World κ σ ε → World κ σ ε → Prop) where
  toSteady := chaining_keepsOrder.steady chains_keepsOrder.widens
    fun hslight => keepsOrder_of_guardAt_eq hslight.guards.guardAt
  look _ := id
  step _ _ _ := id
  relocate world router := keepsOrder_of_guardAt_eq (world.relocate_keepsGuards router).1.guardAt
  replaceRoute {world router r route} hrouter _ := by
    rw [World.replaceRoute, hrouter]
    exact keepsOrder_of_guardAt_eq fun _ => rfl
  fail _ _ := id
  startPass := within_modifyGet fun _ => id
  changed _ _ := id

end Order

end Run

namespace Reached

variable {host : Host κ σ ε} {world : World κ σ ε}

/-- Every guard of a session that a host can get to has its blockers in order. -/
theorem ordered_guardAt (h : Reached host world) (guard : GuardId) : (world.guardAt guard).blockers.Ordered := by
  induction h generalizing guard with
  | start location memory => exact Registry.ordered_empty
  | run _ depth program hends ih => exact Run.stepwise_keepsOrder.lasting.run host depth program hends ih guard

/-- Between runs the blockers of a guard are in the order of their registration, and none is there twice. -/
theorem ordered_blockers (h : Reached host world) {guard : GuardId} {g : Guard κ}
    (hguard : world.guards[guard]? = some g) : g.blockers.Ordered := by
  have hordered := h.ordered_guardAt guard
  rwa [World.guardAt_of_some hguard] at hordered

end Reached

end PageRouter
