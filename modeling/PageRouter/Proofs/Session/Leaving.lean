import PageRouter.Proofs.Session.Passes

namespace PageRouter

variable {κ σ ε α : Type}

namespace Run

variable {ask : α → Run κ σ ε Bool} {pass : Nat} {channel : Channel}

/-- In a pass those run who are asked in it, and no others. -/
theorem Declines.runsIn_eq (hrenews : ∀ callback, Within (Renews (pass + 1)) (ask callback)) {chain : List (Nat × α)}
    {world after : World κ σ ε} (h : Declines ask pass channel chain world after) (hpass : pass < world.nextPass) :
    pass < after.nextPass ∧ after.runsIn pass = world.runsIn pass ++ chain.map fun entry => (channel, entry.1) := by
  induction h with
  | nil world => exact ⟨hpass, (List.append_nil _).symm⟩
  | @cons id callback more world middle after hasked _ ih =>
    obtain ⟨hmiddle, hran⟩ := runsIn_of_ran (hrenews callback) hpass hasked nofun
    obtain ⟨hafter, hmore⟩ := ih hmiddle
    rw [hran, List.append_assoc] at hmore
    exact ⟨hafter, hmore⟩

/-- Those who run are the first ones of a chain, and all of it if the answer is no. -/
theorem Asks.exists_runsIn_eq (hrenews : ∀ callback, Within (Renews (pass + 1)) (ask callback))
    {chain : List (Nat × α)} {world after : World κ σ ε} {answer : Bool}
    (h : Asks ask pass channel chain world (.ok answer) after) (hpass : pass < world.nextPass) :
    ∃ asked later, chain = asked ++ later ∧ (answer = false → later = []) ∧
      after.runsIn pass = world.runsIn pass ++ asked.map fun entry => (channel, entry.1) := by
  cases h with
  | declined hdeclined =>
    exact ⟨chain, [], (List.append_nil chain).symm, fun _ => rfl, (hdeclined.runsIn_eq hrenews hpass).2⟩
  | @stopped before later id callback middle _ _ hchain hbefore hasked hanswer =>
    obtain ⟨hmiddle, hruns⟩ := hbefore.runsIn_eq hrenews hpass
    obtain ⟨-, hran⟩ := runsIn_of_ran (hrenews callback) hmiddle hasked nofun
    refine ⟨before ++ [(id, callback)], later, by rw [hchain, List.append_assoc]; rfl, fun hno => ?_, ?_⟩
    · rw [hno] at hanswer
      exact absurd rfl hanswer
    · rw [hran, hruns, List.map_append, List.append_assoc]
      rfl

/-- Asking whether leaving needs to be confirmed is a pass over the unload handlers that are registered when it
starts. -/
theorem requestUnload_eq_iff {invoke : Invoke κ σ ε} {world after : World κ σ ε} {answer : Except Stop Bool} :
    (requestUnload invoke).exec world = (answer, after) ↔
      Asks (askUnload invoke) world.nextPass .unload world.unload.entries (world.withPass .unload) answer after :=
  askUntilYes_eq_iff

private theorem renews_askUnload (first : Nat) (host : Host κ σ ε) (depth : Nat) (handler : UnloadHandler κ) :
    Within (Renews first) (askUnload (invoke host depth) handler) :=
  (handling_renews first).askUnload (renews_invoke host depth) handler

/-- Unload handlers, be they callbacks of the host or guards with blockers, are asked in the order of their
registration, from those that are registered at the start, until one of them does not say no. Leaving needs to be
confirmed exactly if that one says yes. The handlers up to there have run once each, in order, and no others have in
this pass, whatever they did to the registrations; all of them have if leaving does not need to be confirmed. -/
theorem requestUnload_asks_until_yes (host : Host κ σ ε) (depth : Nat) (world : World κ σ ε) :
    (∀ answer after, (requestUnload (invoke host depth)).exec world = (answer, after) ↔
      Asks (askUnload (invoke host depth)) world.nextPass .unload world.unload.entries (world.withPass .unload) answer
        after) ∧
    ∀ answer after, (requestUnload (invoke host depth)).exec world = (.ok answer, after) →
      ∃ asked later, world.unload.entries = asked ++ later ∧ (answer = false → later = []) ∧
        after.runsIn world.nextPass =
          world.runsIn world.nextPass ++ asked.map fun entry => (.unload, entry.1) := by
  refine ⟨fun answer after => requestUnload_eq_iff, fun answer after hexec => ?_⟩
  have hasks := requestUnload_eq_iff.1 hexec
  exact hasks.exists_runsIn_eq (renews_askUnload _ host depth) (Nat.lt_succ_self world.nextPass)

end Run

/-- A host whose unload handlers have fixed answers. -/
def sureHost : Host Bool Unit Unit where
  respond answer _ := .done answer
  refusal _ := none

/-- Registers two unload handlers with answers. -/
def openSure (first second : Bool) : Program Bool Unit Unit Unit :=
  .ask (.subscribe .unload first) fun _ => .ask (.subscribe .unload second) fun _ => .done ()

/-- The start of the session. -/
def sureStart : World Bool Unit Unit where
  history := .single ⟨"o", "a", "a", "", ""⟩
  memory := ()

/-- The session with both handlers. -/
def sureSession (first second : Bool) : World Bool Unit Unit :=
  ((openSure first second).run sureHost 0 sureStart).2

/-- Both handlers are asked if the first one says no. -/
theorem Run.requestUnload_asks_until_yes_sureSession :
    ∃ after, (requestUnload (invoke sureHost 1)).exec (sureSession false false) = (.ok false, after) ∧
      after.runsIn 0 = [(.unload, 0), (.unload, 1)] := by
  have hentries : (sureSession false false).unload.entries = [(0, .host false), (1, .host false)] := by
    decide +kernel
  obtain ⟨-, hruns⟩ := requestUnload_asks_until_yes sureHost 1 (sureSession false false)
  obtain ⟨asked, later, hchain, hall, hasked⟩ := hruns false _ rfl
  rw [hall rfl, List.append_nil, hentries] at hchain
  rw [← hchain] at hasked
  exact ⟨_, rfl, hasked⟩

/-- A handler that says yes keeps the one behind it from running. -/
theorem Run.requestUnload_skips_sureSession :
    ∃ after, (requestUnload (invoke sureHost 1)).exec (sureSession true false) = (.ok true, after) ∧
      (sureSession true false).unload.entries = [(0, .host true), (1, .host false)] ∧
      after.runs = [(0, .unload, 0)] :=
  ⟨_, rfl, by decide +kernel, by decide +kernel⟩

end PageRouter
