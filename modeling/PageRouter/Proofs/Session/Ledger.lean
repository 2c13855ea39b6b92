import PageRouter.Proofs.Session.Along

namespace PageRouter.Run

variable {κ σ ε : Type}

/-- What a router counts for in a ledger about one router. -/
def share (router : RouterId) (amount : Int) (other : RouterId) : Int :=
  if other = router then amount else 0

@[simp] theorem share_self (router : RouterId) (amount : Int) : share router amount router = amount :=
  if_pos rfl

/-- Other routers count for nothing in a ledger about one router. -/
theorem share_of_ne {router other : RouterId} (amount : Int) (hother : other ≠ router) :
    share router amount other = 0 :=
  if_neg hother

@[simp] theorem share_zero (router other : RouterId) : share router 0 other = 0 :=
  ite_self 0

/-- What is owed to a router is the opposite of what is paid to it. -/
theorem neg_share (router : RouterId) (amount : Int) (other : RouterId) :
    -share router amount other = share router (-amount) other := by
  rw [share, share]
  split <;> rfl

/-- A router that listens is told once in a pass over the listeners. -/
theorem sum_share_of_listens {world : World κ σ ε} (h : world.Sound) {router : RouterId} {r : Router κ}
    {id : Nat} (hrouter : world.routers[router]? = some r) (hsubscription : r.subscription = some id)
    (amount : Int) : (world.changes.entries.map fun entry => entry.2.amount (share router amount)).sum = amount := by
  have hentry : (id, .router router) ∈ world.changes.entries := (h.listens id router).2 ⟨r, hrouter, hsubscription⟩
  refine (h.changes.sum_eq hentry fun entry hmem hother => ?_).trans (share_self router amount)
  obtain ⟨id', listener⟩ := entry
  cases listener with
  | host callback => rfl
  | router other =>
    refine share_of_ne amount fun hsame => hother ?_
    subst hsame
    obtain ⟨r', hrouter', hsubscription'⟩ := (h.listens id' other).1 hmem
    cases hrouter.symm.trans hrouter'
    exact Option.some.inj (hsubscription'.symm.trans hsubscription)

/-- A router that does not listen is not told in a pass over the listeners. -/
theorem sum_share_of_not_listens {world : World κ σ ε} (h : world.Sound) {router : RouterId}
    (hnone : ∀ r, world.routers[router]? = some r → r.subscription = none) (amount : Int) :
    (world.changes.entries.map fun entry => entry.2.amount (share router amount)).sum = 0 := by
  refine List.sum_eq_zero fun value hvalue => ?_
  obtain ⟨⟨id, listener⟩, hmem, rfl⟩ := List.mem_map.1 hvalue
  cases listener with
  | host callback => rfl
  | router other =>
    refine share_of_ne amount fun hsame => ?_
    subst hsame
    obtain ⟨r, hrouter, hsubscription⟩ := (h.listens id other).1 hmem
    exact absurd (hnone r hrouter) (by simp [hsubscription])

/-- A pass over the listeners reaches a router once or not at all. -/
theorem sum_share_cases {world : World κ σ ε} (h : world.Sound) (router : RouterId) (amount : Int) :
    (world.changes.entries.map fun entry => entry.2.amount (share router amount)).sum = amount ∨
      (world.changes.entries.map fun entry => entry.2.amount (share router amount)).sum = 0 := by
  by_cases hlistens : ∃ r id, world.routers[router]? = some r ∧ r.subscription = some id
  · obtain ⟨r, id, hrouter, hsubscription⟩ := hlistens
    exact .inl (sum_share_of_listens h hrouter hsubscription amount)
  · refine .inr (sum_share_of_not_listens h (fun r hrouter => ?_) amount)
    rcases hsubscription : r.subscription with _ | id
    · rfl
    · exact absurd ⟨r, id, hrouter, hsubscription⟩ hlistens

/-- Relations that follow what is owed to a router and what is paid. A change of the history, and a reconciliation
that is asked for, open a debt that is paid when the router is reconciled. A pass over the listeners reaches the
router once if it listens at all, so that the debt is paid by the time the pass is over, however many passes are
started in between. -/
structure Ledger (router : RouterId) (amount : Int) (R : Int → World κ σ ε → World κ σ ε → Prop) : Prop
    extends Graded R where
  minor {world after : World κ σ ε} : Minor world after → R 0 world after
  changed (world : World κ σ ε) (history : History) :
    R (-amount) world ({ world with history }.record (.changed history.current))
  asked (world : World κ σ ε) (other : RouterId) :
    R (-share router amount other) world (world.record (.syncAsked other))
  sync {invoke : Invoke κ σ ε} (hinvoke : ∀ callback told, Within (R 0) (invoke callback told))
    (other : RouterId) : Within (R (share router amount other)) (sync invoke other)
  gone {world : World κ σ ε} : world.isRouterHeld router = false → R amount world world
  balanced {world after : World κ σ ε} :
    R (-amount + (world.changes.entries.map fun entry => entry.2.amount (share router amount)).sum) world after →
      R 0 world after

namespace Ledger

variable {router : RouterId} {amount : Int} {R : Int → World κ σ ε → World κ σ ε → Prop}
  {invoke : Invoke κ σ ε}

private theorem tolerant (h : Ledger router amount R) : Tolerant (R 0) (R 0) :=
  { h.chains.widens with minor := h.minor }

private theorem steady (h : Ledger router amount R) : Steady (R 0) (R 0) :=
  h.tolerant.steady

/-- A router that follows a change is paid what is owed to it, and no other router is. -/
theorem within_follow (h : Ledger router amount R)
    (hinvoke : ∀ callback told, Within (R 0) (invoke callback told)) (other : RouterId) :
    Within (R (share router amount other)) (follow invoke other) := by
  refine Run.within_follow h.steady (h.spans _) (fun world _ error _ => h.minor (.fail world other error))
    (fun world hgone => ?_) (h.sync hinvoke other)
  by_cases hother : other = router
  · subst hother
    rw [share_self]
    exact h.gone hgone
  · rw [share_of_ne amount hother]
    exact h.zero world

/-- Whatever is owed after a change of the history has been paid when all listeners were told. -/
theorem within_announce (h : Ledger router amount R)
    (hinvoke : ∀ callback told, Within (R 0) (invoke callback told)) (history : History) :
    Within (R 0) (announce invoke history) := by
  -- The listeners are those at the time of the change, and each router among them pays once.
  intro world hends
  have htold := within_notify_changes h.toGraded h.steady hinvoke (h.tolerant.startPass .changes) (share router amount)
    (h.within_follow hinvoke) world.changes
  exact h.balanced (h.add (h.changed world history) (htold _ hends))

/-- A reconciliation that is asked for pays the debt that it opens. -/
theorem within_syncAsked (h : Ledger router amount R)
    (hinvoke : ∀ callback told, Within (R 0) (invoke callback told)) (other : RouterId) :
    Within (R 0) (do record (.syncAsked other); Run.sync invoke other) := by
  intro world hends
  have hpaid := h.add (h.asked world other) (h.sync hinvoke other _ hends)
  rwa [Int.add_left_neg] at hpaid

/-- Over a whole run, nothing is left owing. -/
theorem lasting (h : Ledger router amount R) : Lasting (R 0) where
  toSteady := h.steady
  look world := h.minor (.record world trivial)
  announce {_} hinvoke {world} {history} _ := h.within_announce hinvoke history world
  sync := h.within_syncAsked

end Ledger

end PageRouter.Run
