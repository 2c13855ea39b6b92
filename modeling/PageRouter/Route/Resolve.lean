import PageRouter.Route.Pattern

namespace PageRouter

/-- A pattern with the parameters that a path gave it. -/
structure Match where
  pattern : Pattern
  params : Params
  deriving DecidableEq

namespace Match

def template (found : Match) : String :=
  found.pattern.template

/-- Whether two matches are one route: the same pattern, with the same values for its parameters. -/
def sameRoute (a b : Match) : Bool :=
  a.pattern = b.pattern && a.pattern.names.all fun name => a.params.get? name == b.params.get? name

/-- Whether two routes, either of which may be missing, are one. -/
def sameRoute? : Option Match → Option Match → Bool
  | none, none => true
  | some a, some b => a.sameRoute b
  | _, _ => false

end Match

/-- Takes one more pattern into account. `leaders` are the best matches so far, all with equally many
parameters. -/
def considerPattern (path : String) (leaders : List Match) (pattern : Pattern) : List Match :=
  if leaders.any (·.pattern = pattern) then leaders
  else
    match pattern.extract path, leaders with
    | none, _ => leaders
    | some params, [] => [⟨pattern, params⟩]
    | some params, leader :: _ =>
      if pattern.specificity < leader.pattern.specificity then [⟨pattern, params⟩]
      else if pattern.specificity = leader.pattern.specificity then leaders ++ [⟨pattern, params⟩]
      else leaders

/-- The route of a path among patterns: of those that match, the one with the fewest parameters wins, and a tie
between different patterns is an error. The order of the patterns makes no difference beyond the order of the
templates in that error. -/
def resolve (patterns : List Pattern) (path : String) : Except RouteError (Option Match) :=
  match patterns.foldl (considerPattern path) [] with
  | [] => .ok none
  | [found] => .ok (some found)
  | tied => .error (.ambiguous path (tied.map Match.template))

/-- Patterns that a route may be asked to be one of. -/
structure Selection where
  patterns : List Pattern := []

namespace Selection

def contains (selection : Selection) (pattern : Pattern) : Bool :=
  pattern ∈ selection.patterns

/-- The number of patterns, repeated ones counted again. -/
def size (selection : Selection) : Nat :=
  selection.patterns.length

def isEmpty (selection : Selection) : Bool :=
  selection.patterns.isEmpty

end Selection

def Match.isIn (found : Match) (selection : Selection) : Bool :=
  selection.contains found.pattern

end PageRouter
