import PageRouter.Proofs.Session.Along

namespace PageRouter

variable {κ σ ε : Type}

/-- Sessions that a host can get to from its start, when no program is running. What its programs do, and what
its callbacks do while they run, is up to the host. -/
inductive Reached (host : Host κ σ ε) : World κ σ ε → Prop
  | start (location : Location) (memory : σ) : Reached host { history := .single location, memory }
  | run {world : World κ σ ε} {α : Type} (hworld : Reached host world) (depth : Nat)
      (program : Program κ σ ε α) (hends : (program.run host depth world).1 ≠ .error .exhausted) :
      Reached host (program.run host depth world).2

namespace Reached

variable {host : Host κ σ ε} {world : World κ σ ε}

/-- Every session that a host can get to is sound. -/
theorem sound (h : Reached host world) : world.Sound := by
  induction h with
  | start location memory => exact World.sound_single location memory
  | run _ depth program hends ih => exact (Run.advance.lasting.run host depth program hends).1 ih

end Reached

/-- A run that gives a result has not run out of depth. -/
theorem Stop.ne_exhausted_of_isOk {α : Type} {result : Except Stop α} (hok : result.isOk = true) :
    result ≠ .error .exhausted := by
  rintro rfl
  cases hok

/-- A host whose callbacks reconcile the first router once more, the first time that one of them runs. -/
def echoHost : Host Unit Bool Unit where
  respond _ _ := .inspect fun world =>
    if world.memory then .done false
    else .remember (fun _ => true) (.ask (.sync 0) fun _ => .done false)
  refusal _ := none

/-- A pattern without parameters. -/
def homePattern : Pattern where
  serial := 0
  template := "/home"
  layout := ⟨[.literal "home"], false⟩
  ignoreCase := false
  layout_eq := by decide
  nodup_names := by decide
  empty_notMem_names := by decide

/-- Opens a router, and registers a location observer at it. -/
def openHome : Program Unit Bool Unit Unit :=
  .ask (.openRouter (.leaf "home" homePattern .nil)) fun _ =>
    .ask (.subscribe (.locations 0) ()) fun _ => .done ()

/-- A session at the path of the pattern. -/
def homeStart : World Unit Bool Unit where
  history := .single ⟨"https://a.b", "https://a.b/home", "/home", "", ""⟩
  memory := false

/-- The session with one router and one observer. -/
def homeSession : World Unit Bool Unit :=
  (openHome.run echoHost 0 homeStart).2

/-- The session after the router was reconciled, and once more by the observer while that happened. -/
def syncedSession : World Unit Bool Unit :=
  ((Program.request (.sync 0)).run echoHost 2 homeSession).2

/-- The session with one router and one observer can be got to. -/
theorem reached_homeSession : Reached echoHost homeSession :=
  .run (.start _ false) 0 openHome (Stop.ne_exhausted_of_isOk (by decide +kernel))

/-- A depth of two is enough for the reconciliation and the one in its midst. -/
theorem request_sync_ends : ((Program.request (.sync 0)).run echoHost 2 homeSession).1 ≠ .error .exhausted :=
  Stop.ne_exhausted_of_isOk (by decide +kernel)

/-- The router was not detached while that happened. -/
theorem detached_notMem_journal_syncedSession : .detached 0 ∉ syncedSession.journal := by
  have hattached : syncedSession.journal.all (fun | .detached _ => false | _ => true) = true := by decide +kernel
  exact fun hmem => absurd (List.all_eq_true.1 hattached _ hmem) (by simp)

end PageRouter
