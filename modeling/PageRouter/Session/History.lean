import PageRouter.Location
import PageRouter.Route.Params

namespace PageRouter

/-- What is recorded with an entry that a navigation made. -/
structure EntryState where
  /-- The path that was asked for. -/
  path : String
  /-- The name path of the route, if one matched. -/
  routeName : Option String := none
  params : Params := {}
  deriving DecidableEq, Repr

/-- One visited location. The first one of a history has no state. -/
structure Entry where
  location : Location
  state : Option EntryState := none
  deriving DecidableEq, Repr

/-- How a navigation records its target. -/
inductive Action where
  /-- Puts a new entry after the current one, in place of all that follow it. -/
  | push
  /-- Puts a new entry in place of the current one. -/
  | replace
  deriving DecidableEq, Repr

/-- The history of a session: entries in order, and the position of the current one. -/
structure History where
  entries : List Entry
  index : Nat
  index_lt : index < entries.length
  deriving Repr

namespace History

def single (location : Location) : History :=
  ⟨[{ location }], 0, by simp⟩

def start (origin path : String) : Except RouteError History := do
  return single (← (← Location.parse origin).join path)

def current (history : History) : Entry :=
  history.entries.get ⟨history.index, history.index_lt⟩

def location (history : History) : Location :=
  history.current.location

def size (history : History) : Nat :=
  history.entries.length

/-- Records a new current entry. -/
def commit (history : History) (action : Action) (entry : Entry) : History :=
  match action with
  | .push =>
    ⟨history.entries.take (history.index + 1) ++ [entry], history.index + 1, by
      have := history.index_lt
      simp only [List.length_append, List.length_take, List.length_singleton]
      omega⟩
  | .replace => ⟨history.entries.set history.index entry, history.index, by
      simpa using history.index_lt⟩

/-- The history after a move over `delta` entries, if there are that many and at least one. -/
def move? (history : History) (delta : Int) : Option History :=
  let target := history.index + delta
  if h : delta ≠ 0 ∧ 0 ≤ target ∧ target.toNat < history.entries.length then
    some ⟨history.entries, target.toNat, h.2.2⟩
  else none

end History

end PageRouter
