import PageRouter.Json.Record
import PageRouter.Route.Tree
import PageRouter.Text.Utf8
import PageRouter.Toml.Read

namespace PageRouter

/-- Why nothing can be loaded. -/
inductive LoadError where
  /-- There is nothing to load from. -/
  | absent
  | fileMissing
  | fileNotText
  /-- The document is malformed, or does not have the expected shape. -/
  | malformed
  deriving DecidableEq, Repr

/-- The wording of what is wrong with a file, if it is the file itself. -/
def LoadError.fileMessage? : LoadError → Option String
  | fileMissing => some "No such file or directory (os error 2)"
  | fileNotText => some "stream did not contain valid UTF-8"
  | absent | malformed => none

/-- The text of a file, where no bytes are given if the file does not exist. -/
def textOfFile : Option (List UInt8) → Except LoadError String
  | none => .error .fileMissing
  | some bytes =>
    match Text.decode? bytes with
    | some text => .ok (String.ofList text)
    | none => .error .fileNotText

namespace Settings

def keys : List String :=
  ["max_nesting_depth", "max_template_length", "max_template_segments", "case_insensitive"]

/-- The value of a setting, which is the default one if nothing is given. -/
def given {α β : Type} (read : α → Option β) (default : β) : Option α → Option β
  | none => some default
  | some value => read value

/-- The settings whose values are given in the order of their names. -/
def ofValues? {α : Type} (size? : α → Option Nat) (truth? : α → Option Bool)
    (values : List (Option α)) : Option Settings :=
  let base : Settings := {}
  match values with
  | [depth, length, segments, ignoreCase] => do
    let depth ← given size? base.maxNestingDepth depth
    let length ← given size? base.maxTemplateLength length
    let segments ← given size? base.maxTemplateSegments segments
    let ignoreCase ← given truth? base.ignoreCase ignoreCase
    return ⟨depth, length, segments, ignoreCase⟩
  | _ => none

def ofJson? (json : JsonValue) : Option Settings := do
  ofValues? JsonValue.size? JsonValue.truth? (← json.record? keys)

def ofToml (text : String) : Except LoadError Settings :=
  let settings? := do
    let fields ← Toml.parse? text
    ofValues? TomlValue.size? TomlValue.truth? (keys.map (List.lookup · fields))
  match settings? with
  | some settings => .ok settings
  | none => .error .malformed

end Settings

namespace Routes

/-- Puts an entry in front of the first one with a greater name. -/
def insertSorted {α : Type} (name : String) (node : RouteNode α) : Routes α → Routes α
  | nil => ofNode name node nil
  | leaf key value rest =>
    if name < key then ofNode name node (leaf key value rest)
    else leaf key value (rest.insertSorted name node)
  | group key members rest =>
    if name < key then ofNode name node (group key members rest)
    else group key members (rest.insertSorted name node)
where
  /-- An entry in front of others. -/
  ofNode (name : String) : RouteNode α → Routes α → Routes α
    | .leaf value, rest => leaf name value rest
    | .group members, rest => group name members rest

/-- The name of the one entry of the group that stands for a date or time. -/
def momentName : String := "$__toml_private_datetime"

/-- The entry that a value of a document stands for: a text is a template, a table is a group whose entries
are sorted by name, and a date or time is a group with its text in it. -/
def ofTomlValue? : TomlValue → Option (RouteNode String)
  | .text template => some (.leaf template)
  | .moment moment => some (.group (leaf momentName moment.render nil))
  | .table fields => (ofTomlFields? fields).map .group
  | _ => none
where
  /-- The entries that the fields of a table stand for. -/
  ofTomlFields? : List (String × TomlValue) → Option (Routes String)
    | [] => some nil
    | (name, value) :: more => do
      let node ← ofTomlValue? value
      let entries ← ofTomlFields? more
      return entries.insertSorted name node

/-- Reads a route definition from the text of a document. -/
def ofToml (text : String) : Except LoadError (Routes String) :=
  match (Toml.parse? text).bind ofTomlValue?.ofTomlFields? with
  | some routes => .ok routes
  | none => .error .malformed

end Routes

/-- Where a route definition comes from: a definition itself, a document, in which tables are groups and texts are
templates, or the file of such a document. -/
inductive RouteSource where
  | listed (routes : Routes String)
  | toml (text : String)
  | file (content : Option (List UInt8))

def RouteSource.load : RouteSource → Except LoadError (Routes String)
  | listed routes => .ok routes
  | toml text => Routes.ofToml text
  | file content => do Routes.ofToml (← textOfFile content)

/-- Why a route tree cannot be had from a source. -/
inductive SourceError where
  | load (error : LoadError)
  | route (error : RouteError)
  deriving DecidableEq, Repr

/-- Reads and compiles a route definition, numbering patterns from `serial` on. -/
def RouteTree.load (settings : Settings) (serial : Nat) (source : RouteSource) :
    Except SourceError (RouteTree × Nat) := do
  let definition ← source.load.mapError .load
  (define settings serial definition).mapError .route

end PageRouter
