import PageRouter.Proofs.Session.Steady

namespace PageRouter

variable {κ σ ε α : Type}

/-- Every route is the same as itself, and so is none. -/
theorem Match.sameRoute?_refl (route : Option Match) : Match.sameRoute? route route = true := by
  cases route with
  | none => rfl
  | some found => simp [Match.sameRoute?, Match.sameRoute]

namespace Run

/-- A request is made of minor changes and callbacks, and of one announcement or one reconciliation at most. -/
theorem within_fulfil {R S : World κ σ ε → World κ σ ε → Prop} (h : Steady R S) {host : Host κ σ ε}
    {invoke : Invoke κ σ ε} (hinvoke : ∀ callback told, Within R (invoke callback told))
    (hannounce : ∀ world history, world.history.Next history → Leads S (announce invoke history) world)
    (hsync : ∀ router, Within S (do record (.syncAsked router); sync invoke router))
    {reply : Reply} (request : Request κ reply) : Within S (fulfil host invoke request) :=
  h.serving.fulfil hinvoke hannounce hsync request

/-- A relation that announcements and reconciliations keep if the callbacks in them do. What a request does beyond
minor changes and callbacks is one of these, at most once. -/
structure Lasting (R : World κ σ ε → World κ σ ε → Prop) : Prop extends Steady R R where
  look (world : World κ σ ε) : R world (world.record (.looked world.standings))
  announce {invoke : Invoke κ σ ε} (hinvoke : ∀ callback told, Within R (invoke callback told))
    {world : World κ σ ε} {history : History} (hnext : world.history.Next history) :
    Leads R (announce invoke history) world
  sync {invoke : Invoke κ σ ε} (hinvoke : ∀ callback told, Within R (invoke callback told))
    (router : RouterId) : Within R (do record (.syncAsked router); sync invoke router)

section Programs

variable {R : World κ σ ε → World κ σ ε → Prop}

private theorem Lasting.playing (h : Lasting R) : Playing fun _ => Leads R where
  toHandling := h.handling
  of_throw := within_throw h.toChains
  of_look world _ := h.look world

private theorem Lasting.within_fulfil (h : Lasting R) {host : Host κ σ ε} {invoke : Invoke κ σ ε}
    (hinvoke : ∀ callback told, Within R (invoke callback told)) {reply : Reply} (request : Request κ reply) :
    Within R (fulfil host invoke request) :=
  Run.within_fulfil h.toSteady hinvoke (fun _ _ => h.announce hinvoke) (h.sync hinvoke) request

/-- A program is made of requests, and of steps that only the host and the journal notice. -/
theorem within_execute (h : Lasting R) {host : Host κ σ ε} {invoke : Invoke κ σ ε}
    (hinvoke : ∀ callback told, Within R (invoke callback told)) (program : Program κ σ ε α) :
    Within R (execute host invoke program) :=
  h.playing.execute (h.within_fulfil hinvoke) program

/-- What lasts across requests lasts across callbacks of any depth, by induction on the depth. -/
theorem within_invoke (h : Lasting R) (host : Host κ σ ε) (depth : Nat) (callback : κ) (told : Bool) :
    Within R (invoke host depth callback told) :=
  h.playing.invoke (fun _ => h.within_fulfil) depth callback told

/-- A lasting relation holds between the session before a run and the session after it. -/
theorem Lasting.run (h : Lasting R) (host : Host κ σ ε) (depth : Nat) (program : Program κ σ ε α)
    {world : World κ σ ε} (hends : (program.run host depth world).1 ≠ .error .exhausted) :
    R world (program.run host depth world).2 :=
  within_execute h (within_invoke h host depth) program world hends

end Programs

end Run

end PageRouter
