import PageRouter.Proofs.Session.Reached
import PageRouter.Proofs.Session.Standing

namespace PageRouter

variable {κ σ ε α : Type}

namespace Guard

/-- A guard one blocker of which is being removed, and is out of its chain already. -/
def dismiss (g : Guard κ) (id : Nat) : Guard κ :=
  { g with changing := g.changing + 1, blockers := g.blockers.unsubscribe id }

/-- A guard the last blocker of which is being removed. The handler is not its own any more, whether there was one
or not. -/
def dismissLast (g : Guard κ) (id : Nat) : Guard κ :=
  { g.dismiss id with unload := none }

theorem dismissLast_eq_dismiss {g : Guard κ} (hunload : g.unload = none) (id : Nat) :
    g.dismissLast id = g.dismiss id := by
  rw [dismissLast, dismiss, hunload]

end Guard

namespace World

theorem exists_of_changing {world : World κ σ ε} {guard : GuardId}
    (hchanging : (world.guardAt guard).changing ≠ 0) : ∃ g, world.guards[guard]? = some g := by
  rcases hguard : world.guards[guard]? with _ | g
  · rw [guardAt, hguard] at hchanging
    exact absurd rfl hchanging
  · exact ⟨g, rfl⟩

theorem getElem?_modifyGuard (world : World κ σ ε) (guard : GuardId) (f : Guard κ → Guard κ) :
    (world.modifyGuard guard f).guards[guard]? = world.guards[guard]?.map f := by
  rw [modifyGuard, List.getElem?_modify]
  simp

/-- A guard that is there is seen as it is changed. -/
theorem guardAt_modifyGuard_self (world : World κ σ ε) {guard : GuardId} {g : Guard κ} (f : Guard κ → Guard κ)
    (hguard : world.guards[guard]? = some g) : (world.modifyGuard guard f).guardAt guard = (f g).unheld := by
  rw [guardAt, getElem?_modifyGuard, hguard, Option.map_some, Option.getD_some]

/-- A change of one guard is not seen at another one. -/
theorem guardAt_modifyGuard_of_ne (world : World κ σ ε) {guard other : GuardId} (f : Guard κ → Guard κ)
    (hother : guard ≠ other) : (world.modifyGuard guard f).guardAt other = world.guardAt other := by
  rw [guardAt, modifyGuard, List.getElem?_modify, guardAt]
  simp [hother]

/-- Nothing is changed about a guard that is not there. -/
theorem modifyGuard_of_none {world : World κ σ ε} {guard : GuardId} (f : Guard κ → Guard κ)
    (hguard : world.guards[guard]? = none) : world.modifyGuard guard f = world := by
  rw [modifyGuard, List.modify_eq_self (List.getElem?_eq_none_iff.1 hguard)]

/-- Two changes of one guard are one. -/
theorem modifyGuard_modifyGuard (world : World κ σ ε) (guard : GuardId) (f g : Guard κ → Guard κ) :
    (world.modifyGuard guard f).modifyGuard guard g = world.modifyGuard guard (g ∘ f) := by
  rw [modifyGuard, modifyGuard, modifyGuard, List.modify_modify_eq]

/-- Whatever is changed about a guard but for its registration, handlers stay listed. -/
theorem Listed.modifyGuard {world : World κ σ ε} (h : world.Listed) (guard : GuardId) {f : Guard κ → Guard κ}
    (hf : ∀ g, world.guards[guard]? = some g → ∀ id, (f g).unload = some id →
      g.unload = some id ∨ world.Owns guard id) : (world.modifyGuard guard f).Listed := by
  refine h.later h.ordered (.refl _) (fun _ hid => .inl hid) fun other id hid => ?_
  by_cases hother : guard = other
  · subst hother
    rcases hguard : world.guards[guard]? with _ | g
    · rw [modifyGuard_of_none f hguard] at hid
      exact .inl hid
    · rw [guardAt_modifyGuard_self world f hguard] at hid
      rw [guardAt_of_some hguard]
      exact hf g hguard id hid
  · rw [guardAt_modifyGuard_of_ne world f hother] at hid
    exact .inl hid

/-- Handlers stay listed when one of them is removed. -/
theorem Listed.unsubscribe {world : World κ σ ε} (h : world.Listed) (id : Nat) :
    Listed { world with unload := world.unload.unsubscribe id } :=
  h.later (h.ordered.unsubscribe id) (.unsubscribe _ id) (fun _ hid => .inl hid) fun _ _ hid => .inl hid

/-- Handlers stay listed when another one is registered. -/
theorem Listed.subscribe {world : World κ σ ε} (h : world.Listed) (handler : UnloadHandler κ) :
    Listed { world with unload := world.unload.subscribe handler } :=
  h.later (h.ordered.subscribe _) (.subscribe _ _) (fun _ hid => .inl hid) fun _ _ hid => .inl hid

/-- A handler that is registered for a guard has an id that belongs to the guard. -/
theorem Listed.owns_subscribe {world : World κ σ ε} (h : world.Listed) (guard : GuardId) :
    Owns { world with unload := world.unload.subscribe (.guard guard) } guard world.unload.nextId := by
  refine ⟨Nat.lt_succ_self _, fun handler hmem => ?_⟩
  rcases Registry.mem_subscribe.1 hmem with hbefore | hnew
  · exact absurd (h.ordered.lt_nextId _ (Registry.mem_ids_of_mem hbefore)) (Nat.lt_irrefl _)
  · exact (Prod.mk.inj hnew).2

end World

namespace Run

/-- What becomes of the business of a guard, if it is of a certain kind. Whatever happens, handlers stay listed;
the rest holds unless a panic goes through the registration or the removal of the guard's handler. -/
def Turns (guard : GuardId) (p : Business → Prop) (f : Business → Business) (world after : World κ σ ε) : Prop :=
  world.Listed → (after.Listed ∧ world.unload.Later after.unload) ∧
    ∃ events, after.journal = events ++ world.journal ∧
      (.unwound guard ∉ events → world.Attended guard → p (world.business guard) →
        after.Attends guard (f (world.business guard)) ∧ ((world.business guard).Idle → Truthful guard events))

/-- A guard is left with the business that it had. -/
abbrev Tends (guard : GuardId) : World κ σ ε → World κ σ ε → Prop :=
  Turns guard (fun _ => True) id

section Turns

variable {guard : GuardId} {p q : Business → Prop} {f g : Business → Business}

/-- The business of a guard is turned step by step, as long as nothing that was idle is left undone in between. -/
theorem Turns.comp {first second third : World κ σ ε} (hfirst : Turns guard p f first second)
    (hsecond : Turns guard q g second third) (hq : ∀ b, p b → q (f b))
    (hidle : ∀ b, p b → b.Idle → (f b).Idle) : Turns guard p (fun b => g (f b)) first third := by
  intro hlisted
  obtain ⟨⟨hlisted', hlater⟩, earlier, hjournal, hturned⟩ := hfirst hlisted
  obtain ⟨⟨hlisted'', hlater'⟩, later, hjournal', hturned'⟩ := hsecond hlisted'
  refine ⟨⟨hlisted'', hlater.trans hlater'⟩, later ++ earlier, ?_, fun hwound hattended hp => ?_⟩
  · rw [hjournal', hjournal, List.append_assoc]
  · rw [List.mem_append, not_or] at hwound
    obtain ⟨⟨hattended', hbusiness⟩, htruthful⟩ := hturned hwound.2 hattended hp
    have hq : q (second.business guard) := hbusiness ▸ hq _ hp
    obtain ⟨hattends, htruthful'⟩ := hturned' hwound.1 hattended' hq
    rw [hbusiness] at hattends htruthful'
    exact ⟨hattends, fun hstart => (htruthful' (hidle _ hp hstart)).append (htruthful hstart)⟩

/-- What business is turned into may be described otherwise where that is the same. -/
theorem Turns.mono {world after : World κ σ ε} (h : Turns guard p f world after)
    (hsame : world.Listed → q (world.business guard) →
      p (world.business guard) ∧ f (world.business guard) = g (world.business guard)) :
    Turns guard q g world after := by
  intro hlisted
  obtain ⟨hlisted', events, hjournal, hturned⟩ := h hlisted
  refine ⟨hlisted', events, hjournal, fun hwound hattended hq => ?_⟩
  obtain ⟨hp, heq⟩ := hsame hlisted hq
  exact heq ▸ hturned hwound hattended hp

/-- A change of a session at once, without a word in the journal. -/
theorem Turns.of_silent {world after : World κ σ ε} (hjournal : after.journal = world.journal)
    (hlisted : world.Listed → after.Listed ∧ world.unload.Later after.unload)
    (hturned : world.Listed → world.Attended guard → p (world.business guard) →
      after.Attends guard (f (world.business guard))) : Turns guard p f world after := by
  intro h
  refine ⟨hlisted h, [], hjournal, fun _ hattended hp => ⟨hturned h hattended hp, fun _ => ?_⟩⟩
  exact fun standings hlooked => absurd hlooked (by simp)

/-- What leaves a guard and its handlers alone. -/
theorem tends_of_same {world after : World κ σ ε} (events : List (Event ε))
    (hjournal : after.journal = events ++ world.journal) (htruthful : Truthful guard events)
    (hsame : world.Listed → (after.Listed ∧ world.unload.Later after.unload) ∧
      after.guardAt guard = world.guardAt guard ∧ ∀ id, after.IsHandler guard id ↔ world.IsHandler guard id) :
    Tends guard world after := by
  intro hlisted
  obtain ⟨hlisted', hguard, hhandlers⟩ := hsame hlisted
  refine ⟨hlisted', events, hjournal, fun _ hattended _ => ⟨⟨?_, ?_⟩, fun _ => htruthful⟩⟩
  · exact hattended.of_same hguard hhandlers
  · exact World.business_of_same hguard hhandlers

/-- A guard is left with its business by what does not concern the blockers of guards. -/
theorem tends_of_keepsGuards {world after : World κ σ ε} (hkeeps : KeepsGuards world after)
    (events : List (Event ε)) (hjournal : after.journal = events ++ world.journal)
    (htruthful : Truthful guard events) : Tends guard world after :=
  tends_of_same events hjournal htruthful fun hlisted => by
    obtain ⟨hlisted', hlater, hhandlers⟩ := hlisted.keepsGuards hkeeps
    exact ⟨⟨hlisted', hlater⟩, hkeeps.guardAt guard, hhandlers guard⟩

/-- A guard that is left with its business again and again is left with it. -/
theorem chains_tends (guard : GuardId) : Chains (Tends guard : World κ σ ε → World κ σ ε → Prop) where
  refl _ := tends_of_keepsGuards (.of_eq rfl rfl rfl) [] rfl (truthful_nil guard)
  trans hfirst hsecond := hfirst.comp hsecond (fun _ _ => trivial) fun _ _ hidle => hidle

/-- One event more that is not about guards leaves a guard with its business. -/
theorem tends_of_event {guard : GuardId} {world after : World κ σ ε} (hkeeps : KeepsGuards world after)
    {event : Event ε} (hjournal : after.journal = event :: world.journal) (hevent : event.KeepsGuards) :
    Tends guard world after :=
  tends_of_keepsGuards hkeeps [event] hjournal (truthful_of_keepsGuards guard (List.forall_mem_singleton.2 hevent))

theorem tends_record {guard : GuardId} (world : World κ σ ε) {event : Event ε} (hkeeps : event.KeepsGuards) :
    Tends guard world (world.record event) :=
  tends_of_event (.of_eq rfl rfl rfl) rfl hkeeps

/-- A program sees the guard settled, if none of its blockers is being added or removed. -/
theorem tends_looked (guard : GuardId) (world : World κ σ ε) :
    Tends guard world (world.record (.looked world.standings)) := by
  intro hlisted
  have hkeeps : KeepsGuards world (world.record (.looked world.standings)) := .of_eq rfl rfl rfl
  obtain ⟨hlisted', hlater, hhandlers⟩ := hlisted.keepsGuards hkeeps
  refine ⟨⟨hlisted', hlater⟩, [.looked world.standings], rfl, fun _ hattended _ => ⟨⟨?_, ?_⟩, fun hidle => ?_⟩⟩
  · exact hattended.of_same (hkeeps.guardAt guard) (hhandlers guard)
  · exact World.business_of_same (hkeeps.guardAt guard) (hhandlers guard)
  · intro standings hlooked standing hstanding hchanging
    rw [List.mem_singleton, Event.looked.injEq] at hlooked
    subst hlooked
    exact World.settled_of_idle hlisted hattended hidle hstanding hchanging

end Turns

section Hooks

variable {guard : GuardId} {invoke : Invoke κ σ ε}
  (hinvoke : ∀ callback told, Within (Tends guard) (invoke callback told))

include hinvoke

/-- A callback that a source runs leaves a guard with its business. -/
theorem tends_performHook (acting : GuardId) (hook : Option κ) :
    Within (Tends guard) (performHook invoke acting hook) := by
  cases hook with
  | none => exact within_pure (chains_tends guard) ()
  | some callback =>
    refine within_noteUnwinding (chains_tends guard) (fun world => ?_)
      (within_perform (chains_tends guard) (hinvoke callback false))
    exact tends_of_keepsGuards (.of_eq rfl rfl rfl) [.unwound acting] rfl fun _ hlooked => by simp at hlooked

/-- A panic of a hook is written down on behalf of its guard, so that only what comes after the hook matters. -/
theorem turns_performHook_bind {p : Business → Prop} {f : Business → Business} (hook : Option κ)
    {next : Unit → Run κ σ ε α} {world : World κ σ ε}
    (hnext : ∀ after, after.Listed → world.unload.Later after.unload → Leads (Turns guard p f) (next ()) after) :
    Leads (Turns guard p f) (performHook invoke guard hook >>= next) world := by
  have hcomp {first second third : World κ σ ε} (hfirst : Tends guard first second)
      (hsecond : Turns guard p f second third) : Turns guard p f first third :=
    (hfirst.mono fun _ _ => ⟨trivial, rfl⟩).comp hsecond (fun _ hp => hp) fun _ _ hidle => hidle
  cases hook with
  | none => exact fun hends hlisted => hnext world hlisted (.refl _) hends hlisted
  | some callback =>
    intro hends
    have hperform := within_perform (chains_tends guard) (hinvoke callback false) world
    rw [Leads] at hperform
    rw [performHook, exec_bind, exec_noteUnwinding] at hends ⊢
    -- A panic is written down as one that goes through the guard, after which nothing is claimed of the guard.
    rcases hexec : (perform invoke callback).exec world with ⟨(payload | _) | value, middle⟩
    · rw [hexec] at hperform
      intro hlisted
      obtain ⟨⟨hlisted', hlater⟩, events, hjournal, -⟩ := hperform (by simp) hlisted
      have hnoted : KeepsGuards middle (middle.record (.unwound guard)) := .of_eq rfl rfl rfl
      obtain ⟨hlisted'', hlater', -⟩ := hlisted'.keepsGuards hnoted
      refine ⟨⟨hlisted'', hlater.trans hlater'⟩, .unwound guard :: events, ?_, fun hwound => ?_⟩
      · exact congrArg (Event.unwound guard :: ·) hjournal
      · exact absurd List.mem_cons_self hwound
    · rw [hexec] at hends
      exact absurd rfl hends
    · rw [hexec] at hperform hends
      intro hlisted
      have hperform := hperform (by simp)
      obtain ⟨⟨hlisted', hlater⟩, -⟩ := hperform hlisted
      exact hcomp hperform (hnext middle hlisted' hlater hends) hlisted

end Hooks

section Silent

variable {guard : GuardId}

/-- A stray is removed, which was not the handler that the guard has. -/
theorem turns_unsubscribe (world : World κ σ ε) (registration : Nat) :
    Turns guard (registration ∈ ·.strays) (fun b => { b with strays := b.strays \ {registration} }) world
      { world with unload := world.unload.unsubscribe registration } := by
  refine .of_silent rfl (fun hlisted => ⟨hlisted.unsubscribe registration, .unsubscribe _ _⟩) ?_
  intro hlisted hattended hstray
  have hhandlers (id : Nat) : World.IsHandler { world with unload := world.unload.unsubscribe registration } guard id ↔
      world.IsHandler guard id ∧ id ≠ registration := Registry.mem_unsubscribe
  obtain ⟨hregistered, hattaching, hattached⟩ := hattended
  refine ⟨⟨fun id hid => (hhandlers id).2 ⟨hregistered id hid, ?_⟩, hattaching, hattached⟩, ?_⟩
  · rintro rfl
    exact hstray.2 hid
  · refine Business.ext rfl rfl (Set.ext fun id => ?_)
    refine (and_congr_left fun _ => hhandlers id).trans ?_
    exact and_right_comm

/-- The handler of a guard is registered, which the guard does not know of yet. -/
theorem turns_subscribe (world : World κ σ ε) :
    Turns guard (fun _ => True) (fun b => { b with strays := insert world.unload.nextId b.strays }) world
      { world with unload := world.unload.subscribe (.guard guard) } := by
  refine .of_silent rfl (fun hlisted => ⟨hlisted.subscribe _, .subscribe _ _⟩) fun hlisted hattended _ => ?_
  have hhandlers (id : Nat) : World.IsHandler { world with unload := world.unload.subscribe (.guard guard) } guard id ↔
      world.IsHandler guard id ∨ id = world.unload.nextId := by
    refine Registry.mem_subscribe.trans (or_congr_right ?_)
    simp
  refine ⟨⟨fun id hid => ?_, hattended.attaching, hattended.attached⟩, Business.ext rfl rfl (Set.ext fun id => ?_)⟩
  · exact (hhandlers id).2 (.inl (hattended.registered id hid))
  · refine (and_congr_left fun _ => hhandlers id).trans ?_
    constructor
    · rintro ⟨hid | rfl, hne⟩
      · exact .inr ⟨hid, hne⟩
      · exact .inl rfl
    · rintro (rfl | hstray)
      · exact ⟨.inr rfl, fun hnamed => Nat.lt_irrefl _ (hlisted.owned guard _ hnamed).1⟩
      · exact ⟨.inl hstray.1, hstray.2⟩

/-- The state of a guard is changed. The handlers that there are have to fit the guard as it is then, and those that
it does not name are its strays. -/
theorem turns_modifyGuard {world : World κ σ ε} {g : Guard κ} (hguard : world.guards[guard]? = some g)
    (change : Guard κ → Guard κ) {p : Business → Prop} {f : Business → Business}
    (howned : ∀ id, (change g).unload = some id → g.unload = some id ∨ world.Owns guard id)
    (hchange : world.Attended guard → p (world.business guard) →
      ((∀ id, (change g).unload = some id → world.IsHandler guard id) ∧
        ((change g).attaching = true → (change g).unload = none) ∧
        ((change g).attaching = false → ((change g).unload = none ↔ (change g).blockers.entries = []))) ∧
      f (world.business guard) = ⟨(change g).attaching, (change g).changing,
        {id | world.IsHandler guard id ∧ (change g).unload ≠ some id}⟩) :
    Turns guard p f world (world.modifyGuard guard change) := by
  have hafter : (world.modifyGuard guard change).guards[guard]? = some (change g) := by
    rw [World.getElem?_modifyGuard, hguard, Option.map_some]
  refine .of_silent rfl (fun hlisted => ⟨?_, .refl _⟩) fun _ hattended hp => ?_
  · refine hlisted.modifyGuard guard fun g' hguard' id hid => ?_
    cases hguard.symm.trans hguard'
    exact howned id hid
  · obtain ⟨hattended', hbusiness⟩ := hchange hattended hp
    exact ⟨(World.attended_iff hafter).2 hattended', (World.business_eq hafter).trans hbusiness.symm⟩

/-- The state of a guard is changed, but not which handler it names. -/
theorem turns_update {world : World κ σ ε} {g : Guard κ} (hguard : world.guards[guard]? = some g)
    (change : Guard κ → Guard κ) (hunload : (change g).unload = g.unload) {p : Business → Prop}
    {f : Business → Business} (hchange : p (world.business guard) → (g.attaching = true → g.unload = none) →
      (g.attaching = false → (g.unload = none ↔ g.blockers.entries = [])) →
      ((change g).attaching = true → g.unload = none) ∧
        ((change g).attaching = false → (g.unload = none ↔ (change g).blockers.entries = [])))
    (hbusiness : f ⟨g.attaching, g.changing, (world.business guard).strays⟩ =
      ⟨(change g).attaching, (change g).changing, (world.business guard).strays⟩) :
    Turns guard p f world (world.modifyGuard guard change) := by
  refine turns_modifyGuard hguard change (fun id hid => .inl (hunload ▸ hid)) fun hattended hp => ?_
  obtain ⟨hregistered, hattaching, hattached⟩ := (World.attended_iff hguard).1 hattended
  obtain ⟨hattaching', hattached'⟩ := hchange hp hattaching hattached
  rw [hunload]
  refine ⟨⟨hregistered, hattaching', hattached'⟩, ?_⟩
  rw [World.business_eq hguard] at hbusiness ⊢
  exact hbusiness

/-- The guard takes note of its handler, which is needed. -/
theorem turns_keep {world : World κ σ ε} {g : Guard κ} (hguard : world.guards[guard]? = some g)
    (hblockers : g.blockers.entries ≠ []) {registration : Nat} (howns : world.Owns guard registration)
    (change : Guard κ → Guard κ)
    (hchange : change g = { g with attaching := false, unload := some registration }) :
    Turns guard (fun b => b.attaching = true ∧ registration ∈ b.strays)
      (fun b => { b with attaching := false, strays := b.strays \ {registration} }) world
      (world.modifyGuard guard change) := by
  refine turns_modifyGuard hguard change (fun id hid => .inr ?_) fun hattended hp => ?_
  · rw [hchange] at hid
    exact Option.some.inj hid ▸ howns
  · obtain ⟨-, hnone, -⟩ := (World.attended_iff hguard).1 hattended
    rw [World.business_eq hguard] at hp ⊢
    obtain ⟨hattaching, hstray⟩ := hp
    have hunload : g.unload = none := hnone hattaching
    rw [hchange]
    refine ⟨⟨fun id hid => Option.some.inj hid ▸ hstray.1, nofun, fun _ => ?_⟩, ?_⟩
    · exact iff_of_false (Option.some_ne_none _) hblockers
    · refine Business.ext rfl rfl (Set.ext fun id => ?_)
      simp [hunload, eq_comm]

/-- One addition or removal less is under way. -/
theorem turns_leave (world : World κ σ ε) :
    Turns guard (·.changing ≠ 0) (fun b => { b with changing := b.changing - 1 }) world
      (world.modifyGuard guard fun g => { g with changing := g.changing - 1 }) := by
  rcases hguard : world.guards[guard]? with _ | g
  · rw [World.modifyGuard_of_none _ hguard]
    refine ((chains_tends guard).refl world).mono fun _ hchanging => ?_
    obtain ⟨g, hguard'⟩ := World.exists_of_changing hchanging
    cases hguard.symm.trans hguard'
  · have hturns : Turns guard (fun _ => True) (fun b => { b with changing := b.changing - 1 }) world
        (world.modifyGuard guard fun g => { g with changing := g.changing - 1 }) :=
      turns_update hguard _ rfl (fun _ hattaching hattached => ⟨hattaching, hattached⟩) rfl
    exact hturns.mono fun _ _ => ⟨trivial, rfl⟩

/-- An addition or a removal is over. What it was about has to be as before, but for its being under way. -/
theorem Turns.leave {f : Business → Business} {world after : World κ σ ε}
    (h : Turns guard (fun _ => True) f world after) (hf : ∀ b, (f b).changing = b.changing + 1)
    (hattaching : (f (world.business guard)).attaching = (world.business guard).attaching)
    (hstrays : (f (world.business guard)).strays = (world.business guard).strays) :
    Tends guard world (after.modifyGuard guard fun g => { g with changing := g.changing - 1 }) := by
  have hpos (b : Business) : (f b).changing ≠ 0 := by
    rw [hf]
    exact Nat.succ_ne_zero _
  have hleft := h.comp (turns_leave after) (fun b _ => hpos b) fun b _ _ hzero => absurd hzero (hpos b)
  refine hleft.mono fun _ _ => ⟨trivial, Business.ext hattaching ?_ hstrays⟩
  exact congrArg (· - 1) (hf _)

/-- A blocker is put at the end of a chain, and the handler is on its way in if there is none and none on its way. -/
theorem turns_enlist {world : World κ σ ε} {g : Guard κ} (hguard : world.guards[guard]? = some g) (callback : κ)
    {attach : Bool} (hattach : (g.unload.isNone && !g.attaching) = attach) :
    Turns guard (fun _ => True)
      (fun b => { b with attaching := b.attaching || attach, changing := b.changing + 1 }) world
      ((world.modifyGuard guard fun g => { g with changing := g.changing + 1 }).modifyGuard guard fun g =>
        { g with blockers := g.blockers.subscribe callback, attaching := g.attaching || attach }) := by
  have hchain : (g.blockers.subscribe callback).entries ≠ [] := by simp [Registry.subscribe]
  rw [World.modifyGuard_modifyGuard]
  refine turns_update hguard (fun g => { g with
    changing := g.changing + 1, blockers := g.blockers.subscribe callback, attaching := g.attaching || attach })
    rfl (fun _ hattaching _ => ⟨fun h => ?_, fun h => ?_⟩) rfl
  · rcases (Bool.or_eq_true _ _).mp h with hbefore | rfl
    · exact hattaching hbefore
    · exact Option.isNone_iff_eq_none.1 (Bool.and_eq_true_iff.1 hattach).1
  · obtain ⟨hbefore, rfl⟩ := Bool.or_eq_false_iff.1 h
    refine iff_of_false (fun hnone => ?_) hchain
    simp [hnone, hbefore] at hattach

/-- A blocker is taken out of a chain in which others are left, or which has no handler to be removed. -/
theorem turns_dismiss {world : World κ σ ε} {g : Guard κ} (hguard : world.guards[guard]? = some g) (id : Nat)
    (change : Guard κ → Guard κ) (hchange : change g = g.dismiss id)
    (hkept : (g.blockers.unsubscribe id).entries ≠ [] ∨ g.unload = none) :
    Turns guard (fun _ => True) (fun b => { b with changing := b.changing + 1 }) world
      (world.modifyGuard guard change) := by
  refine turns_update hguard change (by rw [hchange, Guard.dismiss]) (fun _ hattaching hattached => ?_)
    (by rw [hchange, Guard.dismiss])
  rw [hchange]
  refine ⟨hattaching, fun h => ?_⟩
  have hsubset : g.blockers.entries = [] → (g.blockers.unsubscribe id).entries = [] := fun hnil => by
    simp [Registry.unsubscribe, hnil]
  rcases hkept with hleft | hnone
  · have hbefore : g.blockers.entries ≠ [] := fun hnil => hleft (hsubset hnil)
    exact iff_of_false (fun hnone => hbefore ((hattached h).1 hnone)) hleft
  · exact iff_of_true hnone (hsubset ((hattached h).1 hnone))

/-- The last blocker is taken out of a chain, and with it the registration of the handler, a stray from then on. -/
theorem turns_dismissLast {world : World κ σ ε} {g : Guard κ} (hguard : world.guards[guard]? = some g)
    {registration : Nat} (hregistration : g.unload = some registration) {id : Nat}
    (hlast : (g.blockers.unsubscribe id).entries = []) :
    Turns guard (fun _ => True)
      (fun b => { b with changing := b.changing + 1, strays := insert registration b.strays }) world
      (world.modifyGuard guard (·.dismissLast id)) := by
  refine turns_modifyGuard hguard (·.dismissLast id) nofun fun hattended _ => ?_
  obtain ⟨hregistered, -, -⟩ := (World.attended_iff hguard).1 hattended
  have hhandler : world.IsHandler guard registration := hregistered registration hregistration
  rw [World.business_eq hguard]
  refine ⟨⟨nofun, fun _ => rfl, fun _ => iff_of_true rfl hlast⟩, Business.ext rfl rfl (Set.ext fun other => ?_)⟩
  by_cases heq : other = registration
  · simp [heq, hhandler, Guard.dismissLast]
  · simp [heq, hregistration, Ne.symm heq, Guard.dismissLast]

end Silent

end Run

end PageRouter
