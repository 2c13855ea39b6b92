import PageRouter.Json.Record
import PageRouter.Session.History

namespace PageRouter

open JsonValue (ofRecord ofPair)

def Params.toJson (params : Params) : JsonValue :=
  ofRecord [("entries", .array (params.entries.map ofPair))]

/-- Reads parameters; the entries are taken as they are. -/
def Params.ofJson? (json : JsonValue) : Option Params := do
  match ← json.record? ["entries"] with
  | [some entries] => return ⟨← entries.list? JsonValue.pair?⟩
  | _ => none

def Location.toJson (location : Location) : JsonValue :=
  ofRecord [("origin", .text location.origin), ("href", .text location.href),
    ("pathname", .text location.pathname), ("search", .text location.search),
    ("hash", .text location.hash)]

def Location.ofJson? (json : JsonValue) : Option Location := do
  match ← json.record? ["origin", "href", "pathname", "search", "hash"] with
  | [some origin, some href, some pathname, some search, some hash] => return {
      origin := ← origin.text?, href := ← href.text?, pathname := ← pathname.text?
      search := ← search.text?, hash := ← hash.text? }
  | _ => none

/-- An entry state in the form in which it is stored outside of a session. -/
def EntryState.toJson (state : EntryState) : JsonValue :=
  ofRecord [("path", .text state.path),
    ("route_name", (state.routeName.map fun name => .text (some name)).getD .null),
    ("params", state.params.toJson)]

/-- Reads the name of a route, which may be `null`. -/
def EntryState.routeName? : JsonValue → Option (Option String)
  | .null => some none
  | json => json.text?.map some

/-- Reads an entry state. In an object the name of the route may be missing. -/
def EntryState.ofJson? (json : JsonValue) : Option EntryState := do
  match ← json.record? ["path", "route_name", "params"] with
  | [some path, some name, some params] => return {
      path := ← path.text?, routeName := ← EntryState.routeName? name, params := ← Params.ofJson? params }
  | [some path, none, some params] => return { path := ← path.text?, params := ← Params.ofJson? params }
  | _ => none

def Action.name : Action → String
  | push => "push"
  | replace => "replace"

def Action.ofName? (name : String) : Option Action :=
  if name = "push" then some .push else if name = "replace" then some .replace else none

def Action.toJson (action : Action) : JsonValue :=
  .text action.name

/-- Reads an action: its name, or an object with `null` under its name. -/
def Action.ofJson? : JsonValue → Option Action
  | .text name => name.bind Action.ofName?
  | .object [(some name, .null)] => Action.ofName? name
  | _ => none

end PageRouter
