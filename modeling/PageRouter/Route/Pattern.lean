import PageRouter.Route.Error
import PageRouter.Route.MatcherSize
import PageRouter.Route.Params
import PageRouter.Route.Settings

namespace PageRouter

/-- The first name that is empty or stands among the earlier ones. -/
def nameFlaw? (earlier : List String) : List String → Option TemplateFlaw
  | [] => none
  | name :: rest =>
    if name = "" then some .unnamedParam
    else if name ∈ earlier then some (.repeatedParam name)
    else nameFlaw? (name :: earlier) rest

theorem nameFlaw?_eq_none_iff {earlier names : List String} :
    nameFlaw? earlier names = none ↔ names.Nodup ∧ "" ∉ names ∧ ∀ name ∈ names, name ∉ earlier := by
  induction names generalizing earlier with
  | nil => simp [nameFlaw?]
  | cons name rest ih =>
    unfold nameFlaw?
    by_cases h : name = ""
    · simp [h]
    · by_cases hm : name ∈ earlier
      · simp [h, hm]
      · simp only [h, hm, if_false, ih, List.nodup_cons, List.mem_cons, not_or]
        grind

/-- A compiled template. Patterns that are compiled at different moments carry different serial numbers, so that two
patterns with one template stay two patterns. A pattern matches a path that has a slash and a fitting piece for each
of its segments, with or without one more slash at the end, and extracts the pieces that stand for parameters. -/
structure Pattern where
  serial : Nat
  template : String
  layout : Layout
  ignoreCase : Bool
  layout_eq : Layout.ofTemplate? template = some layout
  nodup_names : layout.names.Nodup
  empty_notMem_names : "" ∉ layout.names
  deriving DecidableEq

namespace Pattern

/-- Compiles a template under the limits of the settings. -/
def compile (settings : Settings) (serial : Nat) (template : String) : Except RouteError Pattern :=
  match h : Layout.ofTemplate? template with
  | none => .error (.invalidTemplate template .noLeadingSlash)
  | some layout =>
    if template.utf8ByteSize > settings.maxTemplateLength then
      .error (.invalidTemplate template (.tooLong template.utf8ByteSize settings.maxTemplateLength))
    else if layout.segments.length > settings.maxTemplateSegments then
      .error (.invalidTemplate template
        (.tooManySegments layout.segments.length settings.maxTemplateSegments))
    else
      match hn : nameFlaw? [] layout.names with
      | some flaw => .error (.invalidTemplate template flaw)
      | none =>
        if layout.hasSmallMatcher settings.ignoreCase then
          .ok {
            serial, template, layout
            ignoreCase := settings.ignoreCase
            layout_eq := h
            nodup_names := (nameFlaw?_eq_none_iff.1 hn).1
            empty_notMem_names := (nameFlaw?_eq_none_iff.1 hn).2.1 }
        else .error (.invalidTemplate template (.matcherTooLarge matcherLimit))

def segments (pattern : Pattern) : List Segment :=
  pattern.layout.segments

def trailingSlash (pattern : Pattern) : Bool :=
  pattern.layout.trailingSlash

def names (pattern : Pattern) : List String :=
  pattern.layout.names

def hasParams (pattern : Pattern) : Bool :=
  !pattern.names.isEmpty

/-- The number of parameters. A pattern with fewer is more specific. -/
def specificity (pattern : Pattern) : Nat :=
  pattern.names.length

def sameTemplate (a b : Pattern) : Bool :=
  a.template == b.template

/-- Whether a piece of a path fits a segment. -/
def fits (ignoreCase : Bool) (piece : List Char) : Segment → Bool
  | .literal text => if ignoreCase then Text.sameFolded text.toList piece else text.toList == piece
  | .param _ => !piece.isEmpty

/-- Reads a path against segments: the pieces that stand for parameters, with their names. -/
def capture (ignoreCase : Bool) : List Segment → List Char → Option (List (String × String))
  | [], path => if path = [] ∨ path = ['/'] then some [] else none
  | segment :: more, '/' :: path =>
    let piece := path.takeWhile (· ≠ '/')
    if fits ignoreCase piece segment then
      let captured := segment.name?.map (·, String.ofList piece)
      (capture ignoreCase more (path.dropWhile (· ≠ '/'))).map (captured.toList ++ ·)
    else none
  | _ :: _, _ => none

/-- The parameters that a path gives, if it matches. -/
def extract (pattern : Pattern) (path : String) : Option Params :=
  (capture pattern.ignoreCase pattern.segments path.toList).map Params.mk

/-- Whether a path matches. -/
def accepts (pattern : Pattern) (path : String) : Bool :=
  (pattern.extract path).isSome

end Pattern

end PageRouter
