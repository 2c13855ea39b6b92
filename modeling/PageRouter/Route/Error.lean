import PageRouter.Text.Quoted
import PageRouter.Url.Error

namespace PageRouter

/-- Why a template is refused. -/
inductive TemplateFlaw where
  | noLeadingSlash
  /-- The template has `length` bytes, more than `limit`. -/
  | tooLong (length limit : Nat)
  | tooManySegments (count limit : Nat)
  | unnamedParam
  | repeatedParam (name : String)
  /-- The matcher of the template would need more than `limit` bytes. -/
  | matcherTooLarge (limit : Nat)
  deriving DecidableEq, Repr

def TemplateFlaw.message : TemplateFlaw → String
  | noLeadingSlash => "route should start with slash"
  | tooLong length limit => s!"length {length} exceeds maximum allowed length of {limit} bytes"
  | tooManySegments count limit => s!"{count} path segments, exceeding maximum of {limit}"
  | unnamedParam => "dynamic segment without a name"
  | repeatedParam name => "parameter '" ++ name ++ "' declared twice"
  | matcherTooLarge limit =>
    s!"failed to compile matcher: Compiled regex exceeds size limit of {limit} bytes."

/-- Why the name of a route or group is refused. -/
inductive NameFlaw where
  | empty
  | containsSeparator
  | repeated
  deriving DecidableEq, Repr

def NameFlaw.message : NameFlaw → String
  | empty => "name is empty"
  | containsSeparator => "name contains ':'"
  | repeated => "name is defined twice in the same group"

/-- Why an address is refused. -/
inductive LocationFlaw where
  | malformed (error : UrlError)
  /-- The location source does not take the address, for a reason of its own. -/
  | refused (reason : String)
  deriving DecidableEq, Repr

def LocationFlaw.message : LocationFlaw → String
  | malformed error => error.message
  | refused reason => reason

/-- What can go wrong when routes are defined, paths are built or resolved, and locations are visited, by cause. -/
inductive RouteError where
  | invalidTemplate (template : String) (flaw : TemplateFlaw)
  /-- A path was to be built from `template` without the parameters `names`. -/
  | missingParams (template : String) (names : List String)
  /-- A path was to be built from `template` with parameters that it does not declare. -/
  | unknownParams (template : String) (names : List String)
  /-- The value cannot stand in one segment of a path. -/
  | invalidParam (template name value : String)
  /-- The value does not read as a `target`; `reason` is the reader's. -/
  | unreadableParam (name value target reason : String)
  /-- Several patterns match the path with equally few parameters. -/
  | ambiguous (path : String) (templates : List String)
  /-- The current route, if there is one, is not among the routes asked for. -/
  | mismatch (current : Option String)
  | nestingTooDeep (name : String) (depth limit : Nat)
  | invalidName (name : String) (flaw : NameFlaw)
  | unknownName (name : String)
  | invalidLocation (address : String) (flaw : LocationFlaw)
  deriving DecidableEq, Repr

/-- The wording of an error, one for each cause. -/
def RouteError.message : RouteError → String
  | invalidTemplate template flaw => "invalid route template '" ++ template ++ "': " ++ flaw.message
  | missingParams template names =>
    "missing route params: route=" ++ template ++ " missing=" ++ ",".intercalate names
  | unknownParams template names =>
    "unknown route params: route=" ++ template ++ " unknown=" ++ ",".intercalate names
  | invalidParam template name value =>
    "invalid value for route param '" ++ name ++ "' in " ++ template ++ ": " ++ Text.quote value
  | unreadableParam name value target reason =>
    "failed to parse route param '" ++ name ++ "' (" ++ Text.quote value ++ ") as " ++ target ++ ": " ++
      reason
  | ambiguous path templates =>
    "multiple routes with same ambiguousness level matched pathname " ++ path ++ ": " ++
      ", ".intercalate templates
  | mismatch current =>
    "current route doesn't match provided filter(s): current=" ++ current.getD "<none>"
  | nestingTooDeep name depth limit =>
    "route '" ++ name ++ s!"' is nested {depth} levels deep (max {limit})"
  | invalidName name flaw => "invalid route name '" ++ name ++ "': " ++ flaw.message
  | unknownName name => "unknown route name: " ++ name
  | invalidLocation address flaw => "invalid location '" ++ address ++ "': " ++ flaw.message

end PageRouter
