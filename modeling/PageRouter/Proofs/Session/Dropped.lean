import PageRouter.Proofs.Session.Unload

namespace PageRouter

variable {κ σ ε : Type}

/-- A router that nobody holds does not listen to changes. -/
theorem World.Sound.notMem_changes {world : World κ σ ε} (h : world.Sound) {router : RouterId} {r : Router κ}
    (hrouter : world.routers[router]? = some r) (hdropped : r.holders = 0) (id : Nat) :
    (id, .router router) ∉ world.changes.entries := by
  intro hentry
  obtain ⟨r', hrouter', hsubscription⟩ := (h.listens id router).1 hentry
  cases hrouter.symm.trans hrouter'
  have hheld := (h.routers router r hrouter).held (by simp [hsubscription])
  omega

namespace World

variable {world : World κ σ ε} {guard : GuardId}

/-- The handlers of a guard without strays are the one that its registration names, if any. -/
theorem isHandler_iff_of_strays_eq_empty (hattended : world.Attended guard)
    (hstrays : (world.business guard).strays = ∅) {id : Nat} :
    world.IsHandler guard id ↔ (world.guardAt guard).unload = some id := by
  refine ⟨fun hhandler => ?_, hattended.registered id⟩
  by_contra hne
  have hstray : id ∈ (world.business guard).strays := ⟨hhandler, hne⟩
  rw [hstrays] at hstray
  exact hstray

/-- A guard with which nothing is going on has no handler exactly if it has no blocker. -/
theorem forall_not_isHandler_iff (hattends : world.Attends guard ⟨false, 0, ∅⟩) :
    (∀ id, ¬world.IsHandler guard id) ↔ (world.guardAt guard).blockers.entries = [] := by
  obtain ⟨hattended, hbusiness⟩ := hattends
  have hattaching : (world.guardAt guard).attaching = false := congrArg Business.attaching hbusiness
  have hstrays : (world.business guard).strays = ∅ := congrArg Business.strays hbusiness
  rw [← hattended.attached hattaching, Option.eq_none_iff_forall_ne_some]
  exact forall_congr' fun id => not_congr (isHandler_iff_of_strays_eq_empty hattended hstrays)

end World

/-- Whatever blockers and observers were added to a router and removed again, between runs a router that nobody holds
is not among those who listen to changes of the history. If no panic went through the registration or the removal of
its guard's unload handler, the guard has no handler registered exactly if its blockers have all been removed, and
else it has one. -/
theorem Reached.dropped_leaves {host : Host κ σ ε} {world : World κ σ ε} (h : Reached host world)
    {router : RouterId} {r : Router κ} (hrouter : world.routers[router]? = some r) (hdropped : r.holders = 0) :
    (∀ id, (id, .router router) ∉ world.changes.entries) ∧
    (.unwound r.guard ∉ world.journal →
      ((∀ id, (id, .guard r.guard) ∉ world.unload.entries) ↔
        (world.guardAt r.guard).blockers.entries = []) ∧
      ∀ id id', (id, .guard r.guard) ∈ world.unload.entries → (id', .guard r.guard) ∈ world.unload.entries →
        id = id') := by
  refine ⟨h.sound.notMem_changes hrouter hdropped, fun hcalm => ?_⟩
  obtain ⟨-, hattends, -⟩ := h.attends hcalm
  refine ⟨World.forall_not_isHandler_iff hattends, fun id id' hid hid' => ?_⟩
  have hstrays : (world.business r.guard).strays = ∅ := congrArg Business.strays hattends.2
  have hnamed := (World.isHandler_iff_of_strays_eq_empty hattends.1 hstrays).1 hid
  have hnamed' := (World.isHandler_iff_of_strays_eq_empty hattends.1 hstrays).1 hid'
  exact Option.some.inj (hnamed.symm.trans hnamed')

/-- A host whose callbacks do nothing. -/
def idleHost : Host Unit Unit Unit where
  respond _ _ := .done false
  refusal _ := none

/-- Opens a router, adds a blocker to it, and drops the router without having removed the blocker. -/
def dropBlocked : Program Unit Unit Unit Unit :=
  .ask (.openRouter .nil) fun _ => .ask (.block 0 ()) fun _ => .ask (.releaseRouter 0) fun _ => .done ()

/-- Opens a router, adds a blocker to it, removes the blocker, and drops the router. -/
def dropCleared : Program Unit Unit Unit Unit :=
  .ask (.openRouter .nil) fun _ => .ask (.block 0 ()) fun handle => .ask (.unsubscribe handle) fun _ =>
    .ask (.releaseRouter 0) fun _ => .done ()

/-- The start of both sessions. -/
def idleStart : World Unit Unit Unit where
  history := .single ⟨"o", "a", "a", "", ""⟩
  memory := ()

/-- The session in which a router was dropped with its blocker. -/
def blockedDropSession : World Unit Unit Unit :=
  (dropBlocked.run idleHost 1 idleStart).2

/-- The session in which a router was dropped without its blocker. -/
def clearedDropSession : World Unit Unit Unit :=
  (dropCleared.run idleHost 1 idleStart).2

/-- The router is gone, and its guard's unload handler is still there. -/
theorem blockedDropSession_leaves_handler :
    Reached idleHost blockedDropSession ∧
    blockedDropSession.routers.map (fun r => (r.holders, r.guard)) = [(0, 0)] ∧
    blockedDropSession.changes.entries = [] ∧ blockedDropSession.unload.entries = [(0, .guard 0)] := by
  refine ⟨.run (.start _ ()) 1 dropBlocked (Stop.ne_exhausted_of_isOk ?_), ?_, ?_, ?_⟩ <;> decide +kernel

/-- With its blocker removed in time, a router leaves nothing. -/
theorem clearedDropSession_leaves_nothing :
    ∃ r, clearedDropSession.routers[0]? = some r ∧ r.holders = 0 ∧ .unwound r.guard ∉ clearedDropSession.journal ∧
      (∀ id, (id, .router 0) ∉ clearedDropSession.changes.entries) ∧
      ∀ id, (id, .guard r.guard) ∉ clearedDropSession.unload.entries := by
  have hreached : Reached idleHost clearedDropSession :=
    .run (.start _ ()) 1 dropCleared (Stop.ne_exhausted_of_isOk (by decide +kernel))
  obtain ⟨r, hrouter⟩ : ∃ r, clearedDropSession.routers[0]? = some r :=
    Option.isSome_iff_exists.1 (by decide +kernel)
  have hdropped : clearedDropSession.routers.all (fun r => r.holders = 0 ∧ r.guard = 0) = true := by decide +kernel
  obtain ⟨hholders, hguard⟩ : r.holders = 0 ∧ r.guard = 0 := by
    simpa using List.all_eq_true.1 hdropped r (List.mem_of_getElem? hrouter)
  have hcalm : .unwound r.guard ∉ clearedDropSession.journal := by
    have hcalm : clearedDropSession.journal.all (fun | .unwound _ => false | _ => true) = true := by decide +kernel
    exact fun hmem => absurd (List.all_eq_true.1 hcalm _ hmem) (by simp)
  have hblockers : (clearedDropSession.guardAt r.guard).blockers.entries = [] := by
    rw [hguard]
    decide +kernel
  obtain ⟨hchanges, hunload⟩ := hreached.dropped_leaves hrouter hholders
  exact ⟨r, hrouter, hholders, hcalm, hchanges, (hunload hcalm).1.2 hblockers⟩

end PageRouter
