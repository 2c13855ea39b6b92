import Mathlib.Algebra.Order.Group.Multiset
import PageRouter.Proofs.Session.Along

namespace PageRouter

variable {κ σ ε : Type}

namespace World

/-- The routers that a pass over the listeners comes to: those that listen when it starts, and no others. In between,
callbacks may start further passes. -/
def audience (world : World κ σ ε) : Multiset RouterId :=
  (world.changes.entries.map fun entry => entry.2.amount fun router => ({router} : Multiset RouterId)).sum

/-- A router is among the listeners if one of the registrations is its own. -/
theorem mem_sum_amount_iff {entries : List (Nat × Listener κ)} {router : RouterId} :
    router ∈ (entries.map fun entry => entry.2.amount fun router => ({router} : Multiset RouterId)).sum ↔
      ∃ id, (id, .router router) ∈ entries := by
  induction entries with
  | nil => simp
  | cons entry entries ih =>
    rw [List.map_cons, List.sum_cons, Multiset.mem_add, ih]
    obtain ⟨id, callback | other⟩ := entry
    · simp [Listener.amount]
    · simp [Listener.amount, exists_or]

/-- In a sound session, a pass over the listeners comes to the routers that have a registration. -/
theorem Sound.mem_audience_iff {world : World κ σ ε} (h : world.Sound) {router : RouterId} :
    router ∈ world.audience ↔ ∃ r, world.routers[router]? = some r ∧ r.subscription ≠ none := by
  rw [audience, mem_sum_amount_iff]
  constructor
  · rintro ⟨id, hid⟩
    obtain ⟨r, hrouter, hsubscription⟩ := (h.listens id router).1 hid
    exact ⟨r, hrouter, by simp [hsubscription]⟩
  · rintro ⟨r, hrouter, hlistens⟩
    obtain ⟨id, hsubscription⟩ := Option.ne_none_iff_exists'.1 hlistens
    exact ⟨id, (h.listens id router).2 ⟨r, hrouter, hsubscription⟩⟩

end World

namespace Run

/-- What is true of a router stays so, and becomes so for certain ones. -/
def Attains (K : World κ σ ε → RouterId → Prop) (routers : Multiset RouterId) (world after : World κ σ ε) : Prop :=
  (∀ other, K world other → K after other) ∧ ∀ router ∈ routers, K after router

namespace Attains

variable {K : World κ σ ε → RouterId → Prop} {world after : World κ σ ε}

/-- What stays true of every router is attained for nobody new. -/
theorem of_kept (hkept : ∀ other, K world other → K after other) : Attains K 0 world after :=
  ⟨hkept, by simp⟩

/-- What stays true of every router, and is true of one in the end, is attained for that one. -/
theorem of_single {router : RouterId} (hkept : ∀ other, K world other → K after other) (hrouter : K after router) :
    Attains K {router} world after :=
  ⟨hkept, fun _ hother => Multiset.mem_singleton.1 hother ▸ hrouter⟩

/-- What was true of a router anyway may count as attained. -/
theorem single {router : RouterId} (h : Attains K 0 world after) (hrouter : K world router) :
    Attains K {router} world after :=
  .of_single h.1 (h.1 router hrouter)

theorem forget {routers : Multiset RouterId} (h : Attains K routers world after) : Attains K 0 world after :=
  .of_kept h.1

theorem zero (world : World κ σ ε) : Attains K 0 world world :=
  .of_kept fun _ h => h

/-- What one part of a pass attains for some routers, the next part keeps while it attains it for others. -/
theorem add {m n : Multiset RouterId} {first second third : World κ σ ε} (hfirst : Attains K m first second)
    (hsecond : Attains K n second third) : Attains K (m + n) first third := by
  refine ⟨fun other h => hsecond.1 other (hfirst.1 other h), fun router hrouter => ?_⟩
  rcases Multiset.mem_add.1 hrouter with hmem | hmem
  · exact hsecond.1 router (hfirst.2 router hmem)
  · exact hsecond.2 router hmem

/-- What those who are told attain, and those who do not listen have anyway, is true of all routers in the end. -/
theorem of_audience (h : Attains K world.audience world after) (hsound : world.Sound)
    (hdeaf : ∀ router, (∀ r, world.routers[router]? = some r → r.subscription = none) → K world router)
    (router : RouterId) : K after router := by
  by_cases htold : router ∈ world.audience
  · exact h.2 router htold
  · refine h.1 router (hdeaf router fun r hrouter => ?_)
    by_contra hlistens
    exact htold (hsound.mem_audience_iff.2 ⟨r, hrouter, hlistens⟩)

end Attains

/-- What following a change does for each router, announcing the change does for all of them. -/
theorem attains_announce {K : World κ σ ε → RouterId → Prop} {P : Multiset RouterId → World κ σ ε → World κ σ ε → Prop}
    (h : Adds P) (hsteady : Steady (Along (P 0)) (Along (P 0))) (hstart : Within (Along (P 0)) (startPass .changes))
    (hattains : ∀ {routers world after}, P routers world after → Attains K routers world after)
    (hdeaf : ∀ {world router}, (∀ r, world.routers[router]? = some r → r.subscription = none) → K world router)
    {invoke : Invoke κ σ ε} (hinvoke : ∀ callback told, Within (Along (P 0)) (invoke callback told))
    (hfollow : ∀ router, Within (Along (P {router})) (follow invoke router)) (history : History) :
    Within (Along fun _ after => ∀ router, K after router) (announce invoke history) := by
  intro world hends hsound
  have hchanged : ({ world with history }.record (.changed history.current)).Sound :=
    (hsound.travel history).record _
  have htold := within_notify_changes h.graded hsteady hinvoke hstart (fun router => ({router} : Multiset RouterId))
    hfollow world.changes
  obtain ⟨hadvanced, hP⟩ := htold _ hends hchanged
  exact ⟨hadvanced, (hattains hP).of_audience hchanged fun _ => hdeaf⟩

end Run

end PageRouter
