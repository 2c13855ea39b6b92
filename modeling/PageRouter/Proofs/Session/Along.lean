import PageRouter.Proofs.Session.Sound

namespace PageRouter.Run

variable {κ σ ε : Type}

/-- A session stays sound, and becomes a later one. -/
def Advance (world after : World κ σ ε) : Prop :=
  (world.Sound → after.Sound) ∧ world.Later after

/-- Writing into the journal keeps a session sound. -/
theorem advance_record (world : World κ σ ε) (event : Event ε) : Advance world (world.record event) :=
  ⟨fun h => h.record event, World.each_of_routers_eq .refl rfl⟩

/-- A session with another history and a note about that is as sound as before: what routers show is their own. -/
theorem advance_changed (world : World κ σ ε) (history : History) :
    Advance world ({ world with history }.record (.changed history.current)) :=
  ⟨fun h => (h.travel history).record _, World.each_of_routers_eq .refl rfl⟩

/-- Minor changes lead to sound sessions that are later ones. -/
theorem tolerant_advance : Tolerant (Advance : World κ σ ε → World κ σ ε → Prop) Advance where
  refl _ := ⟨id, World.each_of_routers_eq .refl rfl⟩
  trans hfirst hsecond := ⟨hsecond.1 ∘ hfirst.1, hfirst.2.trans hsecond.2⟩
  before hfirst hsecond := ⟨hsecond.1 ∘ hfirst.1, hfirst.2.trans hsecond.2⟩
  after hfirst hsecond := ⟨hsecond.1 ∘ hfirst.1, hfirst.2.trans hsecond.2⟩
  widen := id
  minor hminor := ⟨hminor.sound, hminor.kept.mono Router.Kept.toLater⟩

/-- Every step of a run does, so that a run does as a whole. -/
theorem advance : Stepwise (Advance : World κ σ ε → World κ σ ε → Prop) where
  toSteady := tolerant_advance.steady
  look world := advance_record world _
  step world _ := fun _ => advance_record world _
  relocate world router := ⟨fun h => h.relocate router, world.later_relocate router⟩
  replaceRoute _ _ := ⟨fun h => h.replaceRoute _ _, World.later_replaceRoute _ _ _⟩
  fail _ error := tolerant_advance.minor (.fail _ _ error)
  startPass := tolerant_advance.startPass .changes
  changed := advance_changed

/-- A relation between a sound session and a later one. What a run is said to add up to may depend on the session
being sound at every moment in between, and on what can only be lost by and by. -/
def Along (P : World κ σ ε → World κ σ ε → Prop) (world after : World κ σ ε) : Prop :=
  world.Sound → (after.Sound ∧ world.Later after) ∧ P world after

/-- A relation that is shown for a sound session holds along an advance from it. -/
theorem Advance.along {P : World κ σ ε → World κ σ ε → Prop} {world after : World κ σ ε}
    (h : Advance world after) (hP : world.Sound → P world after) : Along P world after :=
  fun hsound => ⟨⟨h.1 hsound, h.2⟩, hP hsound⟩

theorem Along.mono {P Q : World κ σ ε → World κ σ ε → Prop} {world after : World κ σ ε}
    (h : Along P world after) (hPQ : world.Sound → P world after → Q world after) : Along Q world after :=
  fun hsound => ⟨(h hsound).1, hPQ hsound (h hsound).2⟩

/-- Relations with an amount each that add up as time goes by. -/
structure Adds {M : Type} [AddMonoid M] (P : M → World κ σ ε → World κ σ ε → Prop) : Prop where
  zero (world : World κ σ ε) : P 0 world world
  add {m n : M} {first second third : World κ σ ε} (hsound : first.Sound) (hfirst : first.Later second)
    (hsecond : second.Later third) : P m first second → P n second third → P (m + n) first third

/-- The same for relations that minor changes add nothing to. -/
structure Accrues {M : Type} [AddMonoid M] (P : M → World κ σ ε → World κ σ ε → Prop) : Prop extends Adds P where
  minor {world after : World κ σ ε} : Minor world after → P 0 world after

section Accrues

variable {M : Type} [AddMonoid M] {P : M → World κ σ ε → World κ σ ε → Prop}

/-- Amounts that add up from one sound session to a later one add up along a run. -/
theorem Adds.graded (h : Adds P) : Graded fun m => Along (P m) where
  zero world := (advance.refl world).along fun _ => h.zero world
  add hfirst hsecond hsound := by
    obtain ⟨⟨hsound', hlater⟩, hP⟩ := hfirst hsound
    obtain ⟨⟨hsound'', hlater'⟩, hP'⟩ := hsecond hsound'
    exact ⟨⟨hsound'', hlater.trans hlater'⟩, h.add hsound hlater hlater' hP hP'⟩

/-- Minor changes amount to nothing, along a run as well. -/
theorem Accrues.tolerant (h : Accrues P) : Tolerant (Along (P 0)) (Along (P 0)) :=
  { h.graded.chains.widens with
    minor := fun hminor => (tolerant_advance.minor hminor).along fun _ => h.minor hminor }

theorem Accrues.steady (h : Accrues P) : Steady (Along (P 0)) (Along (P 0)) :=
  h.tolerant.steady

end Accrues

end PageRouter.Run
