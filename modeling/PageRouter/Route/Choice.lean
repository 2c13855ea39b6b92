import PageRouter.Route.Tree

namespace PageRouter

/-- Which routes of a tree are asked for. -/
inductive Choice where
  | leaf (name : String)
  | group (name : String)
  | leaves (names : List String)
  /-- A template that is compiled for this purpose, and so is no route of any tree. -/
  | stranger (template : String)
  | everything
  | nothing
  deriving DecidableEq, Repr

/-- Why a choice cannot be made. -/
inductive ChoiceError where
  | noGroup
  | route (error : RouteError)
  deriving DecidableEq, Repr

/-- The patterns of a choice. A strange template is compiled with the given serial number. -/
def RouteTree.select (tree : RouteTree) (settings : Settings) (serial : Nat) (choice : Choice) :
    Except ChoiceError Selection :=
  match choice with
  | .leaf name => ((tree.find name).map fun pattern => ⟨[pattern]⟩).mapError .route
  | .group name =>
    match tree.group? name with
    | some group => .ok (RouteTree.selection group)
    | none => .error .noGroup
  | .leaves names => ((names.mapM tree.find).map .mk).mapError .route
  | .stranger template =>
    ((Pattern.compile settings serial template).map fun pattern => ⟨[pattern]⟩).mapError .route
  | .everything => .ok tree.selection
  | .nothing => .ok {}

end PageRouter
