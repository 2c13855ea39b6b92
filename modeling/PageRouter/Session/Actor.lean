import PageRouter.Session.Script

namespace PageRouter

/-- A callback of a scripted host. -/
inductive Actor where
  /-- Follows a script. Blockers and unload handlers are `asked` for an answer; observers are not. -/
  | scripted (id : Nat) (name : String) (asked : Bool) (script : Script Step)
  /-- Run before the unload handler of a guard is registered. -/
  | attaching
  /-- Run before the unload handler of a guard is removed. -/
  | detaching

/-- What a scripted host notes down. -/
inductive Note where
  /-- A callback runs, at a path; for those that are asked, with what they are told. -/
  | fired (name path : String) (told : Option Bool)
  /-- A callback has done a step. -/
  | did (name : String) (answer : Answer)
  | attaching
  | detaching

/-- What a router showed when it was marked. -/
structure Mark where
  location : Stamped Location
  route : Option (Stamped Match)

/-- Values under handles. -/
abbrev Table (α : Type) := List (String × α)

/-- Stores a value under a handle, in place of an old one. -/
def Table.store {α : Type} (handle : String) (value : α) (table : Table α) : Table α :=
  (handle, value) :: table.filter (·.1 ≠ handle)

def Table.remove {α : Type} (handle : String) (table : Table α) : Table α :=
  table.filter (·.1 ≠ handle)

/-- What a scripted host remembers. -/
structure Memory where
  routers : Table RouterId := []
  guards : Table GuardId := []
  sets : Table SetId := []
  subscriptions : Table Subscription := []
  marks : Table Mark := []
  flags : Table Bool := []
  /-- The steps to do before the unload handler of a guard is next registered. -/
  beforeAttach : List Step := []
  /-- How many callbacks there are. -/
  actors : Nat := 0
  /-- The callbacks that ran, by their ids, once for each run. -/
  runs : List Nat := []
  /-- The number of the next pattern. -/
  nextSerial : Nat := 0

/-- The value of a flag, which is down until it is raised. -/
def Memory.flag (memory : Memory) (name : String) : Bool :=
  (memory.flags.lookup name).getD false

/-- What a veto comes to after so many earlier runs. -/
def Veto.answer (veto : Veto) (memory : Memory) (earlier : Nat) (cancelable : Bool) : Bool :=
  match veto with
  | fixed answer => answer
  | firstRuns count => earlier < count
  | ifCancelable => cancelable
  | unlessCancelable => !cancelable
  | flag name => memory.flag name

/-- Programs of a scripted host. -/
abbrev Play := Program Actor Memory Note

end PageRouter
