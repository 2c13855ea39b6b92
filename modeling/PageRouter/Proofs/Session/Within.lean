import Mathlib.Algebra.Ring.BooleanRing
import PageRouter.Session.Run

namespace PageRouter.Run

variable {κ σ ε α β : Type}

/-- What a computation comes to in a session, and the session after it. -/
def exec (body : Run κ σ ε α) (world : World κ σ ε) : Except Stop α × World κ σ ε :=
  body.run world

@[simp] theorem exec_pure (value : α) (world : World κ σ ε) :
    (pure value : Run κ σ ε α).exec world = (.ok value, world) := rfl

@[simp] theorem exec_modify (f : World κ σ ε → World κ σ ε) (world : World κ σ ε) :
    (modify f : Run κ σ ε PUnit).exec world = (.ok (), f world) := rfl

@[simp] theorem exec_modifyGet (f : World κ σ ε → α × World κ σ ε) (world : World κ σ ε) :
    (modifyGet f : Run κ σ ε α).exec world = (.ok (f world).1, (f world).2) := rfl

@[simp] theorem exec_get_bind (next : World κ σ ε → Run κ σ ε β) (world : World κ σ ε) :
    ((get : Run κ σ ε (World κ σ ε)) >>= next).exec world = (next world).exec world := rfl

/-- What follows a computation starts from its value in the session that it leaves; a stop ends both. -/
theorem exec_bind (first : Run κ σ ε α) (next : α → Run κ σ ε β) (world : World κ σ ε) :
    (first >>= next).exec world =
      match first.exec world with
      | (.ok value, after) => (next value).exec after
      | (.error stop, after) => (.error stop, after) := by
  change (match first.exec world with | (result, after) => ExceptT.bindCont next result after) = _
  obtain ⟨result | value, after⟩ := first.exec world <;> rfl

/-- A computation that gives a value hands on to the next one, which is where proofs about a whole operation go on. -/
theorem exec_bind_ok {first : Run κ σ ε α} {next : α → Run κ σ ε β} {world after : World κ σ ε}
    {value : α} (hfirst : first.exec world = (.ok value, after)) :
    (first >>= next).exec world = (next value).exec after := by
  rw [exec_bind, hfirst]

/-- A computation that gives a value is made of parts that do. -/
theorem exec_bind_eq_ok_iff {first : Run κ σ ε α} {next : α → Run κ σ ε β} {world after : World κ σ ε}
    {value : β} : (first >>= next).exec world = (.ok value, after) ↔
      ∃ given middle, first.exec world = (.ok given, middle) ∧ (next given).exec middle = (.ok value, after) := by
  rw [exec_bind]
  rcases first.exec world with ⟨stop | given, middle⟩
  · simp
  · simp

/-- The second change is made however the computation between the two ends. -/
theorem exec_between (before after : World κ σ ε → World κ σ ε) (body : Run κ σ ε α)
    (world : World κ σ ε) :
    (between before after body).exec world =
      ((body.exec (before world)).1, after (body.exec (before world)).2) := rfl

/-- A computation leads from a session to one that is related to it, unless it runs out of depth: one that is cut off
in the middle of what it does is not to be judged, but one that panics has ended. -/
def Leads (R : World κ σ ε → World κ σ ε → Prop) (body : Run κ σ ε α) (world : World κ σ ε) : Prop :=
  (body.exec world).1 ≠ .error .exhausted → R world (body.exec world).2

/-- A computation leads from every session to one that is related to it. -/
def Within (R : World κ σ ε → World κ σ ε → Prop) (body : Run κ σ ε α) : Prop :=
  ∀ world, Leads R body world

/-- A computation that gives a value gives one with a property. -/
def Yields (P : α → Prop) (body : Run κ σ ε α) : Prop :=
  ∀ world value after, body.exec world = (.ok value, after) → P value

/-- A computation that does not panic. -/
def Calm (body : Run κ σ ε α) : Prop :=
  ∀ world payload, (body.exec world).1 ≠ .error (.panic payload)

/-- A relation that is kept when nothing happens and when one thing happens after another. -/
structure Chains (R : World κ σ ε → World κ σ ε → Prop) : Prop where
  refl (world : World κ σ ε) : R world world
  trans {first second third : World κ σ ε} : R first second → R second third → R first third

/-- A relation that holds across one event between any number of events of another relation. -/
structure Spans (R S : World κ σ ε → World κ σ ε → Prop) : Prop extends Chains R where
  before {first second third : World κ σ ε} : R first second → S second third → S first third
  after {first second third : World κ σ ε} : S first second → R second third → S first third

/-- A relation that holds across at most one event between any number of events of another relation. -/
structure Widens (R S : World κ σ ε → World κ σ ε → Prop) : Prop extends Spans R S where
  widen {first second : World κ σ ε} : R first second → S first second

/-- A relation that chains holds across any number of events of its own. -/
theorem Chains.widens {R : World κ σ ε → World κ σ ε → Prop} (h : Chains R) : Widens R R :=
  { h with before := h.trans, after := h.trans, widen := id }

/-- Relations with an amount each. The amounts of what happens one after another add up. -/
structure Graded {M : Type} [AddMonoid M] (R : M → World κ σ ε → World κ σ ε → Prop) : Prop where
  zero (world : World κ σ ε) : R 0 world world
  add {m n : M} {first second third : World κ σ ε} :
    R m first second → R n second third → R (m + n) first third

/-- Across what amounts to `m`, as much can happen as one likes that amounts to nothing. -/
theorem Graded.spans {M : Type} [AddMonoid M] {R : M → World κ σ ε → World κ σ ε → Prop} (h : Graded R)
    (m : M) : Spans (R 0) (R m) where
  refl := h.zero
  trans hfirst hsecond := by simpa using h.add hfirst hsecond
  before hfirst hsecond := by simpa using h.add hfirst hsecond
  after hfirst hsecond := by simpa using h.add hfirst hsecond

/-- What amounts to nothing chains. -/
theorem Graded.chains {M : Type} [AddMonoid M] {R : M → World κ σ ε → World κ σ ε → Prop}
    (h : Graded R) : Chains (R 0) :=
  (h.spans 0).toChains

/-- A relation without amounts is one whose only amount is none at all. -/
theorem Chains.graded {R : World κ σ ε → World κ σ ε → Prop} (h : Chains R) :
    Graded (fun _ : Unit => R) :=
  ⟨h.refl, h.trans⟩

section Rules

variable {R S : World κ σ ε → World κ σ ε → Prop}

/-- A computation within a relation is within every wider one. -/
theorem within_mono (hwiden : ∀ {first second}, R first second → S first second) {body : Run κ σ ε α}
    (hbody : Within R body) : Within S body :=
  fun world hends => hwiden (hbody world hends)

theorem within_pure (h : Chains R) (value : α) : Within R (pure value : Run κ σ ε α) :=
  fun world _ => h.refl world

/-- A computation that stops at once has changed nothing. -/
theorem within_throw (h : Chains R) (stop : Stop) : Within R (throw stop : Run κ σ ε α) :=
  fun world _ => h.refl world

/-- A change of the session is within whatever relates each session to the changed one. -/
theorem within_modify {f : World κ σ ε → World κ σ ε} (hf : ∀ world, R world (f world)) :
    Within R (modify f : Run κ σ ε PUnit) :=
  fun world _ => hf world

/-- A change that answers something is judged by what it does to the session alone. -/
theorem within_modifyGet {f : World κ σ ε → α × World κ σ ε} (hf : ∀ world, R world (f world).2) :
    Within R (modifyGet f : Run κ σ ε α) :=
  fun world _ => hf world

/-- A computation that first looks at the session is to be judged for every session that it can see. -/
theorem within_get_bind {next : World κ σ ε → Run κ σ ε β} (hnext : ∀ world, Within R (next world)) :
    Within R ((get : Run κ σ ε (World κ σ ε)) >>= next) :=
  fun world hends => hnext world world hends

/-- One computation after another, in relations of their own. Where the first one stops, its relation has to do for
the whole; elsewhere both are put together. The second one may make use of the value and the session that the first
one came to. -/
theorem leads_bind_of {Q : World κ σ ε → World κ σ ε → Prop} {first : Run κ σ ε α}
    {next : α → Run κ σ ε β} {world : World κ σ ε} (hwiden : ∀ {second}, R world second → Q world second)
    (htrans : ∀ {second third}, R world second → S second third → Q world third)
    (hfirst : Leads R first world) (hnext : ∀ value after, first.exec world = (.ok value, after) →
      R world after → Leads S (next value) after) : Leads Q (first >>= next) world := by
  intro hends
  rw [Leads] at hfirst
  rw [exec_bind] at hends ⊢
  rcases hexec : first.exec world with ⟨stop | value, middle⟩
  · -- A panic ends it all, so that the first relation has to do.
    rw [hexec] at hfirst hends
    have hstop : stop ≠ .exhausted := fun heq => hends (by rw [heq])
    exact hwiden (hfirst (by simpa using hstop))
  · rw [hexec] at hfirst hends
    have hmiddle : R world middle := hfirst (by simp)
    exact htrans hmiddle (hnext value middle hexec hmiddle hends)

/-- Two computations within a relation that chains are within it one after the other, where the second one may make
use of what the first one came to. -/
theorem leads_bind (h : Chains R) {first : Run κ σ ε α} {next : α → Run κ σ ε β} {world : World κ σ ε}
    (hfirst : Leads R first world) (hnext : ∀ value after, first.exec world = (.ok value, after) →
      R world after → Leads R (next value) after) : Leads R (first >>= next) world :=
  leads_bind_of id h.trans hfirst hnext

private theorem within_bind_of {Q : World κ σ ε → World κ σ ε → Prop} {first : Run κ σ ε α}
    {next : α → Run κ σ ε β} (hwiden : ∀ {first second}, R first second → Q first second)
    (htrans : ∀ {first second third}, R first second → S second third → Q first third)
    (hfirst : Within R first) (hnext : ∀ value, Within S (next value)) : Within Q (first >>= next) :=
  fun world => leads_bind_of hwiden htrans (hfirst world) fun value after _ _ => hnext value after

/-- Computations that are within a relation that chains are within it one after the other. -/
theorem within_bind (h : Chains R) {first : Run κ σ ε α} {next : α → Run κ σ ε β}
    (hfirst : Within R first) (hnext : ∀ value, Within R (next value)) : Within R (first >>= next) :=
  within_bind_of id h.trans hfirst hnext

/-- A computation within the wider of two relations may be followed by anything within the narrower one. -/
theorem within_bind_after (h : Spans R S) {first : Run κ σ ε α} {next : α → Run κ σ ε β}
    (hfirst : Within S first) (hnext : ∀ value, Within R (next value)) : Within S (first >>= next) :=
  within_bind_of id h.after hfirst hnext

/-- Behind a computation that does not panic, the relations are put together in any case. -/
theorem leads_bind_calm {Q : World κ σ ε → World κ σ ε → Prop} {first : Run κ σ ε α}
    {next : α → Run κ σ ε β} {world : World κ σ ε} (hcalm : Calm first)
    (htrans : ∀ {second third}, R world second → S second third → Q world third)
    (hfirst : Leads R first world) (hnext : ∀ value, Within S (next value)) :
    Leads Q (first >>= next) world := by
  intro hends
  rw [exec_bind] at hends ⊢
  rcases hexec : first.exec world with ⟨stop | value, middle⟩
  · rw [hexec] at hends
    cases stop with
    | panic payload => exact absurd (by rw [hexec]) (hcalm world payload)
    | exhausted => exact absurd rfl hends
  · rw [hexec] at hends
    exact htrans (by simpa [Leads, hexec] using hfirst) (hnext value middle hends)

/-- Giving back another value changes nothing. -/
theorem leads_bind_pure {body : Run κ σ ε α} {world : World κ σ ε} (value : β) (hbody : Leads R body world) :
    Leads R (body >>= fun _ => pure value) world := by
  rw [Leads] at hbody ⊢
  rw [exec_bind]
  rcases hexec : body.exec world with ⟨stop | given, after⟩
  · rw [hexec] at hbody
    exact fun hends => hbody fun heq => hends (congrArg Except.error (Except.error.inj heq))
  · rw [hexec] at hbody
    exact fun _ => hbody (by simp)

/-- A computation between two changes is judged with both of them, since neither is left out when it panics. -/
theorem within_between (h : Spans R S) {before after : World κ σ ε → World κ σ ε} {body : Run κ σ ε α}
    (hbefore : ∀ world, R world (before world)) (hafter : ∀ world, R world (after world))
    (hbody : Within S body) : Within S (between before after body) := by
  intro world hends
  exact h.after (h.before (hbefore world) (hbody (before world) hends)) (hafter _)

/-- A callback that is performed is one that is invoked and told nothing. -/
theorem within_perform (h : Chains R) {invoke : Invoke κ σ ε} {callback : κ}
    (hinvoke : Within R (invoke callback false)) : Within R (perform invoke callback) :=
  within_bind h hinvoke fun _ => within_pure h ()

/-- A contained computation ends without a panic, or runs out of depth. -/
theorem exec_contain (body : Run κ σ ε Unit) (world : World κ σ ε) :
    (contain body).exec world =
      match body.exec world with
      | (.error (.panic payload), after) => (.ok (), after.record (.panicked payload))
      | (.error .exhausted, after) => (.error .exhausted, after)
      | (.ok (), after) => (.ok (), after) := by
  simp only [exec, contain, ExceptT.run_mk]
  obtain ⟨stop | value, after⟩ := body.run world
  · cases stop <;> rfl
  · rfl

/-- A panic of what is run on behalf of a guard is written into the journal and goes on. -/
theorem exec_noteUnwinding (guard : GuardId) (body : Run κ σ ε Unit) (world : World κ σ ε) :
    (noteUnwinding guard body).exec world =
      match body.exec world with
      | (.error (.panic payload), after) => (.error (.panic payload), after.record (.unwound guard))
      | (.error .exhausted, after) => (.error .exhausted, after)
      | (.ok (), after) => (.ok (), after) := by
  simp only [exec, noteUnwinding, ExceptT.run_mk]
  obtain ⟨stop | value, after⟩ := body.run world
  · cases stop <;> rfl
  · rfl

/-- Such a note has to be within the relation, since a panic takes the computation there. -/
theorem within_noteUnwinding (h : Chains R) {guard : GuardId}
    (hunwound : ∀ world, R world (world.record (.unwound guard))) {body : Run κ σ ε Unit}
    (hbody : Within R body) : Within R (noteUnwinding guard body) := by
  intro world
  have hleads := hbody world
  rw [Leads] at hleads ⊢
  rw [exec_noteUnwinding]
  rcases hexec : body.exec world with ⟨stop | value, after⟩
  · rw [hexec] at hleads
    cases stop with
    | panic payload => exact fun _ => h.trans (hleads (by simp)) (hunwound after)
    | exhausted => exact fun hends => absurd rfl hends
  · rw [hexec] at hleads
    exact fun _ => hleads (by simp)

/-- A panic that is contained adds a note about it, and nothing else. -/
theorem within_contain (h : Spans R S)
    (hpanicked : ∀ payload world, R world (world.record (.panicked payload)))
    {body : Run κ σ ε Unit} (hbody : Within S body) : Within S (contain body) := by
  intro world
  have hleads := hbody world
  rw [Leads] at hleads ⊢
  rw [exec_contain]
  rcases hexec : body.exec world with ⟨stop | value, after⟩
  · rw [hexec] at hleads
    cases stop with
    | panic payload => exact fun _ => h.after (hleads (by simp)) (hpanicked payload after)
    | exhausted => exact fun hends => absurd rfl hends
  · rw [hexec] at hleads
    exact fun _ => hleads (by simp)

end Rules

section Calm

theorem calm_pure (value : α) : Calm (pure value : Run κ σ ε α) :=
  fun _ _ => by simp

theorem calm_modify (f : World κ σ ε → World κ σ ε) : Calm (modify f : Run κ σ ε PUnit) :=
  fun _ _ => by simp

theorem calm_modifyGet (f : World κ σ ε → α × World κ σ ε) : Calm (modifyGet f : Run κ σ ε α) :=
  fun _ _ => by simp

/-- A computation that first looks at the session is calm if it is so whatever it sees. -/
theorem calm_get_bind {next : World κ σ ε → Run κ σ ε α} (hnext : ∀ world, Calm (next world)) :
    Calm ((get : Run κ σ ε (World κ σ ε)) >>= next) :=
  fun world payload => hnext world world payload

private theorem calm_bind {first : Run κ σ ε α} {next : α → Run κ σ ε β} (hfirst : Calm first)
    (hnext : ∀ value, Calm (next value)) : Calm (first >>= next) := by
  intro world payload
  have hcalm := hfirst world payload
  rw [exec_bind]
  rcases hexec : first.exec world with ⟨stop | value, after⟩
  · rw [hexec] at hcalm
    exact fun heq => hcalm (congrArg Except.error (Except.error.inj heq))
  · exact hnext value after payload

private theorem calm_contain (body : Run κ σ ε Unit) : Calm (contain body) := by
  intro world payload
  rw [exec_contain]
  obtain ⟨stop | value, after⟩ := body.exec world
  · cases stop <;> simp
  · simp

private theorem calm_runObservers (pass : Nat) (channel : Channel) (run : α → Run κ σ ε Unit)
    (observers : List (Nat × α)) : Calm (runObservers pass channel run observers) := by
  induction observers with
  | nil => exact calm_pure ()
  | cons first more ih => exact calm_bind (calm_modify _) fun _ => calm_bind (calm_contain _) fun _ => ih

/-- A pass over observers does not panic, as the panics of its callbacks are contained. -/
theorem calm_notify (channel : Channel) (run : α → Run κ σ ε Unit) (registry : Registry α) :
    Calm (notify channel run registry) :=
  calm_bind (calm_modifyGet _) fun _ => calm_runObservers _ _ _ _

end Calm

section Yields

variable {P : α → Prop}

theorem yields_pure {value : α} (hvalue : P value) : Yields P (pure value : Run κ σ ε α) := by
  intro world given after hexec
  rw [exec_pure] at hexec
  exact Except.ok.inj (Prod.mk.inj hexec).1 ▸ hvalue

/-- A change that answers something yields what its answer is known to be in every session. -/
theorem yields_modifyGet {f : World κ σ ε → α × World κ σ ε} (hf : ∀ world, P (f world).1) :
    Yields P (modifyGet f : Run κ σ ε α) := by
  intro world given after hexec
  rw [exec_modifyGet] at hexec
  exact Except.ok.inj (Prod.mk.inj hexec).1 ▸ hf world

/-- What a computation yields is up to its last part. -/
theorem yields_bind {first : Run κ σ ε β} {next : β → Run κ σ ε α}
    (hnext : ∀ value, Yields P (next value)) : Yields P (first >>= next) := by
  intro world given after hexec
  rw [exec_bind] at hexec
  rcases hfirst : first.exec world with ⟨stop | value, middle⟩
  · rw [hfirst] at hexec
    exact absurd (Prod.mk.inj hexec).1 (by simp)
  · rw [hfirst] at hexec
    exact hnext value middle given after hexec

/-- What a computation yields does not depend on the changes around it. -/
theorem yields_between {before after : World κ σ ε → World κ σ ε} {body : Run κ σ ε α}
    (hbody : Yields P body) : Yields P (between before after body) := by
  intro world given ended hexec
  rw [exec_between] at hexec
  exact hbody (before world) given _ (Prod.ext (Prod.mk.inj hexec).1 rfl)

end Yields

section Passes

variable {M : Type} [AddMonoid M] {R : M → World κ σ ε → World κ σ ε → Prop}

/-- A pass amounts to what its callbacks amount to, the notes about them included. -/
theorem within_runObservers (h : Graded R) {pass : Nat} {channel : Channel} {run : α → Run κ σ ε Unit}
    (noted : Nat → M) (ran : α → M)
    (hpanicked : ∀ payload world, R 0 world (world.record (.panicked payload)))
    (hran : ∀ id world,
      R (noted id) world (world.record (.ran pass channel id (world.sightAt? channel))))
    (observers : List (Nat × α)) (hrun : ∀ observer ∈ observers, Within (R (ran observer.2)) (run observer.2)) :
    Within (R (observers.map fun observer => noted observer.1 + ran observer.2).sum)
      (runObservers pass channel run observers) := by
  induction observers with
  | nil => exact within_pure h.chains ()
  | cons first more ih =>
    obtain ⟨id, observer⟩ := first
    have hmore := ih fun other hother => hrun other (List.mem_cons_of_mem _ hother)
    have hfirst : Within (R (ran observer)) (contain (run observer)) :=
      within_contain (h.spans _) hpanicked (hrun (id, observer) List.mem_cons_self)
    -- A panic of the first callback is contained, so that the others run in any case.
    intro world
    rw [List.map_cons, List.sum_cons, add_assoc]
    refine leads_bind_calm (calm_modify _) h.add (within_modify (hran id) world) fun _ => ?_
    exact fun world => leads_bind_calm (calm_contain _) h.add (hfirst world) fun _ => hmore

end Passes

end PageRouter.Run
