import PageRouter.Route.Pattern
import PageRouter.Route.Query

namespace PageRouter

/-- The query of a built path. -/
inductive Search where
  /-- Written already, with or without its question mark. -/
  | raw (text : String)
  | pairs (pairs : List (String × String))
  deriving DecidableEq, Repr

/-- What may follow the pathname of a built path. -/
structure Extras where
  search : Option Search := none
  /-- The fragment, with or without its number sign. -/
  hash : Option String := none
  deriving DecidableEq, Repr

namespace Extras

def searchText (extras : Extras) : String :=
  match extras.search with
  | none => ""
  | some (.raw text) => (Query.normalizeSearch? text).getD ""
  | some (.pairs []) => ""
  | some (.pairs pairs) => "?" ++ Query.encode pairs

def hashText (extras : Extras) : String :=
  (extras.hash.bind Query.normalizeHash?).getD ""

end Extras

namespace Pattern

/-- Whether a value is one of the spellings of `.` and `..` that address resolution removes. -/
def isDotSegment (value : List Char) : Bool :=
  ([".", "%2e", "..", ".%2e", "%2e.", "%2e%2e"].map String.toList).contains (value.map Char.toLower)

/-- Whether a value can stand for a parameter: it is not empty, no dot segment, and holds none of the signs
that end a segment. -/
def isSubstitutable (value : String) : Bool :=
  let chars := value.toList
  !chars.isEmpty && !isDotSegment chars && !chars.contains '/' && !chars.contains querySign &&
    !chars.contains fragmentSign

/-- The text of a segment, with the value in place of a parameter. -/
def fill (template : String) (params : Params) : Segment → Except RouteError (List Char)
  | .literal text => .ok text.toList
  | .param name =>
    let value := (params.get? name).getD ""
    if isSubstitutable value then .ok value.toList
    else .error (.invalidParam template name value)

/-- The segments of a path, each after its slash. The first value that does not fill its segment is the
error. -/
def fillAll (template : String) (params : Params) : List Segment → Except RouteError (List Char)
  | [] => .ok []
  | segment :: more => do
    let text ← fill template params segment
    let rest ← fillAll template params more
    return '/' :: text ++ rest

/-- The declared names that have no value. -/
def missing (pattern : Pattern) (params : Params) : List String :=
  pattern.names.filter (!params.contains ·)

/-- The names with a value that are not declared. -/
def unknown (pattern : Pattern) (params : Params) : List String :=
  params.names.filter (!pattern.names.contains ·)

def buildPathname (pattern : Pattern) (params : Params) : Except RouteError String := do
  if pattern.missing params ≠ [] then
    throw (.missingParams pattern.template (pattern.missing params))
  if pattern.unknown params ≠ [] then
    throw (.unknownParams pattern.template (pattern.unknown params))
  let path ← fillAll pattern.template params pattern.segments
  return String.ofList (if path = [] || pattern.trailingSlash then path ++ ['/'] else path)

/-- The pathname for parameters. Without any, all declared names are missing. -/
def suppliedPathname (pattern : Pattern) (params : Option Params) : Except RouteError String :=
  match params with
  | some params => pattern.buildPathname params
  | none =>
    if pattern.hasParams then throw (.missingParams pattern.template pattern.names)
    else pattern.buildPathname .empty

/-- The path for parameters, with a query and a fragment. It is built only from exactly the parameters that the
template declares, and only from values that fill one segment each. -/
def build (pattern : Pattern) (params : Option Params) (extras : Option Extras) :
    Except RouteError String := do
  let pathname ← pattern.suppliedPathname params
  let extras := extras.getD {}
  return pathname ++ extras.searchText ++ extras.hashText

end Pattern

/-- A path in the making: parameters and extras that have been supplied so far. -/
structure PathDraft where
  pattern : Pattern
  params : Params := {}
  extras : Extras := {}

namespace Pattern

def draft (pattern : Pattern) : PathDraft :=
  { pattern }

end Pattern

namespace PathDraft

def param (draft : PathDraft) (name value : String) : PathDraft :=
  { draft with params := draft.params.insert name value }

def withParams (draft : PathDraft) (params : Params) : PathDraft :=
  { draft with params := draft.params.insertAll params.entries }

def search (draft : PathDraft) (search : Search) : PathDraft :=
  { draft with extras := { draft.extras with search := some search } }

def hash (draft : PathDraft) (hash : String) : PathDraft :=
  { draft with extras := { draft.extras with hash := some hash } }

/-- Builds the path. A draft to which no parameter was supplied passes none. -/
def build (draft : PathDraft) : Except RouteError String :=
  draft.pattern.build (if draft.params.isEmpty then none else some draft.params) (some draft.extras)

end PathDraft

end PageRouter
