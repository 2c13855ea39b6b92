import PageRouter.Session.World
import PageRouter.Text.Quoted

namespace PageRouter

/-- How grave a log line is. -/
inductive Level where
  | warning
  | error
  deriving DecidableEq, Repr

/-- A line of the log. -/
structure LogLine where
  level : Level
  message : String
  fields : List (String × String)
  deriving DecidableEq, Repr

def Operation.name : Operation → String
  | push => "push"
  | replace => "replace"
  | go => "go"
  | back => "back"
  | forward => "forward"

/-- The line that is logged for an event that whoever runs a session should hear of. -/
def Event.logLine? {ε : Type} : Event ε → Option LogLine
  | blocked operation => some ⟨.warning, "navigation blocked", [("operation", operation.name)]⟩
  | ambiguous path templates =>
    some ⟨.warning, "ambiguous route match", [("path", path), ("templates", Text.quoteList templates)]⟩
  | panicked payload =>
    let text := match payload with
      | .text message => message
      | .value => "non-string panic payload"
    some ⟨.error, "observer panicked", [("panic", text)]⟩
  | syncFailed _ error => some ⟨.error, "failed to synchronize router", [("error", error.message)]⟩
  | _ => none

def truthName (value : Bool) : String :=
  if value then "true" else "false"

/-- A router in one line. -/
def Router.describe {κ : Type} (router : Router κ) : String :=
  let route := match router.sight.route with
    | some found => "Some(" ++ Text.quote found.template ++ ")"
    | none => "None"
  "Router \x7b location: " ++ Text.quote router.sight.location.href ++ ", route: " ++ route ++ ", .. \x7d"

def Guard.describe {κ : Type} (guard : Guard κ) : String :=
  "GuardedHistory \x7b blockers: BlockerCoordinator \x7b blockers: " ++ toString guard.blockers.size ++
    ", unload_attached: " ++ truthName guard.unload.isSome ++ " \x7d, .. \x7d"

def Registry.describe {α : Type} (registry : Registry α) : String :=
  "Registry \x7b len: " ++ toString registry.size ++ " \x7d"

/-- A registration that was not taken back, in one line. -/
def Subscription.describe (_ : Subscription) : String :=
  "Subscription \x7b active: true \x7d"

end PageRouter
