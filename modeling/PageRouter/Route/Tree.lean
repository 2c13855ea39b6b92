import PageRouter.Route.Resolve
import PageRouter.Route.Reverse

namespace PageRouter

/-- The entries of a group, in order: each is a route with a value of its own, or a group. A route is addressed by the
names on the way to it, with colons between them. -/
inductive Routes (α : Type) where
  | nil
  | leaf (name : String) (value : α) (rest : Routes α)
  | group (name : String) (members : Routes α) (rest : Routes α)
  deriving DecidableEq, Repr, Inhabited

/-- What a name path leads to. -/
inductive RouteNode (α : Type) where
  | leaf (value : α)
  | group (members : Routes α)
  deriving Repr

/-- The name path of an entry in a group that has a name path itself, empty for the outermost group. -/
def joinName (scope name : String) : String :=
  if scope = "" then name else scope ++ ":" ++ name

namespace Routes

variable {α β : Type}

def map (f : α → β) : Routes α → Routes β
  | nil => nil
  | leaf name value rest => leaf name (f value) (rest.map f)
  | group name members rest => group name (members.map f) (rest.map f)

/-- The number of entries, not counting what is inside groups. -/
def size : Routes α → Nat
  | nil => 0
  | leaf _ _ rest => rest.size + 1
  | group _ _ rest => rest.size + 1

def isEmpty (routes : Routes α) : Bool :=
  routes.size == 0

/-- The names of the entries, not of what is inside groups. -/
def entryNames : Routes α → List String
  | nil => []
  | leaf name _ rest => name :: rest.entryNames
  | group name _ rest => name :: rest.entryNames

/-- Every route with its name path, in order, where the group itself is at `scope`. -/
def leavesIn (scope : String) : Routes α → List (String × α)
  | nil => []
  | leaf name value rest => (joinName scope name, value) :: rest.leavesIn scope
  | group name members rest => members.leavesIn (joinName scope name) ++ rest.leavesIn scope

def leaves (routes : Routes α) : List (String × α) :=
  routes.leavesIn ""

def names (routes : Routes α) : List String :=
  routes.leaves.map (·.1)

def values (routes : Routes α) : List α :=
  routes.leaves.map (·.2)

def child? (name : String) : Routes α → Option (RouteNode α)
  | nil => none
  | leaf key value rest => if key = name then some (.leaf value) else rest.child? name
  | group key members rest => if key = name then some (.group members) else rest.child? name

/-- What names lead to, one after the other. -/
def walk? (routes : Routes α) : List String → Option (RouteNode α)
  | [] => some (.group routes)
  | name :: more =>
    match routes.child? name, more with
    | some node, [] => some node
    | some (.group members), _ => members.walk? more
    | _, _ => none

def nameParts (path : String) : List String :=
  (Text.pieces ':' path.toList).map String.ofList

def node? (routes : Routes α) (path : String) : Option (RouteNode α) :=
  routes.walk? (nameParts path)

def get? (routes : Routes α) (path : String) : Option α :=
  match routes.node? path with
  | some (.leaf value) => some value
  | _ => none

def group? (routes : Routes α) (path : String) : Option (Routes α) :=
  match routes.node? path with
  | some (.group members) => some members
  | _ => none

/-- The value of the route at a name path, which has to exist. -/
def find (routes : Routes α) (path : String) : Except RouteError α :=
  match routes.get? path with
  | some value => .ok value
  | none => .error (.unknownName path)

end Routes

/-- Why a name cannot follow the earlier ones of its group. -/
def entryFlaw? (earlier : List String) (name : String) : Option NameFlaw :=
  if name = "" then some .empty
  else if name.toList.contains ':' then some .containsSeparator
  else if name ∈ earlier then some .repeated
  else none

/-- Refuses a name that cannot follow the earlier ones of its group. -/
def checkEntry (scope : String) (earlier : List String) (name : String) : Except RouteError Unit :=
  match entryFlaw? earlier name with
  | some flaw => .error (.invalidName (joinName scope name) flaw)
  | none => .ok ()

def checkDepth (settings : Settings) (scope : String) (depth : Nat) : Except RouteError Unit :=
  if depth > settings.maxNestingDepth then
    .error (.nestingTooDeep scope depth settings.maxNestingDepth)
  else .ok ()

/-- Compiled routes. -/
abbrev RouteTree := Routes Pattern

namespace RouteTree

/-- Compiles the entries of a group at `scope` and `depth`, in order, after entries with the names `earlier`.
Patterns are numbered from `serial` on; the next free number is returned too. -/
def defineGroup (settings : Settings) (scope : String) (depth : Nat) (earlier : List String)
    (serial : Nat) : Routes String → Except RouteError (RouteTree × Nat)
  | .nil => .ok (.nil, serial)
  | .leaf name template rest => do
    checkEntry scope earlier name
    let pattern ← Pattern.compile settings serial template
    let (rest, next) ← defineGroup settings scope depth (name :: earlier) (serial + 1) rest
    return (.leaf name pattern rest, next)
  | .group name members rest => do
    checkEntry scope earlier name
    checkDepth settings (joinName scope name) (depth + 1)
    let (members, next) ← defineGroup settings (joinName scope name) (depth + 1) [] serial members
    let (rest, next) ← defineGroup settings scope depth (name :: earlier) next rest
    return (.group name members rest, next)

/-- Compiles a definition, numbering patterns from `serial` on. The first flaw on the way through the
definition is the error. -/
def define (settings : Settings) (serial : Nat) (definition : Routes String) :
    Except RouteError (RouteTree × Nat) := do
  checkDepth settings "" 1
  defineGroup settings "" 1 [] serial definition

def nameOf? (tree : RouteTree) (pattern : Pattern) : Option String :=
  (tree.leaves.find? (·.2 = pattern)).map (·.1)

/-- The route of a path. -/
def resolve (tree : RouteTree) (path : String) : Except RouteError (Option Match) :=
  PageRouter.resolve tree.values path

/-- Builds a path for the route at a name path. -/
def reverse (tree : RouteTree) (name : String) (params : Option Params) (extras : Option Extras) :
    Except RouteError String := do
  (← tree.find name).build params extras

/-- The selection of every route in a group. -/
def selection (tree : RouteTree) : Selection :=
  ⟨tree.values⟩

end RouteTree

end PageRouter
