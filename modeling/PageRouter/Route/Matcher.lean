import PageRouter.Route.Template
import PageRouter.Text.CaseFold

namespace PageRouter

/-- The characters that one step of an expression may read. -/
inductive CharSet where
  | only (c : Char)
  | allBut (c : Char)
  deriving DecidableEq, Repr

/-- Whether two characters are one letter. -/
def isSameLetter (ignoreCase : Bool) (a b : Char) : Bool :=
  if ignoreCase then Text.foldChar a == Text.foldChar b else a == b

def CharSet.holds (ignoreCase : Bool) : CharSet → Char → Bool
  | only c, other => isSameLetter ignoreCase c other
  | allBut c, other => !isSameLetter ignoreCase c other

/-- A place in a text, with what the groups of an expression have read on the way to it. -/
structure Place where
  /-- The text before the place, last character first. -/
  behind : List Char
  ahead : List Char
  /-- One stretch for each group, in the order in which the groups begin. -/
  groups : List (List Char)
  deriving DecidableEq, Repr

/-- A regular expression, as far as the matchers of templates are written in this syntax: characters, sets of all
characters but one, what may be repeated or left out, groups, and both ends of a text. -/
inductive Expression where
  | nothing
  | textStart
  | textEnd
  | one (set : CharSet)
  | oneOrMore (set : CharSet)
  | atMostOne (set : CharSet)
  | group (inner : Expression)
  | both (first second : Expression)
  deriving DecidableEq, Repr

namespace Expression

/-- The place after one character of a set. -/
def step (ignoreCase : Bool) (set : CharSet) : Place → List Place
  | ⟨_, [], _⟩ => []
  | ⟨behind, c :: ahead, groups⟩ =>
    if set.holds ignoreCase c then [⟨c :: behind, ahead, groups⟩] else []

/-- The places after one or more characters of a set, the furthest one first. -/
def stretches (ignoreCase : Bool) (set : CharSet) (groups : List (List Char)) (behind : List Char) :
    List Char → List Place
  | [] => []
  | c :: ahead =>
    if set.holds ignoreCase c then
      stretches ignoreCase set groups (c :: behind) ahead ++ [⟨c :: behind, ahead, groups⟩]
    else []

/-- The places that an expression leads to, those that are tried first in front: of all ways to read a text the first
one counts, where earlier starts come before later ones and long stretches before short ones. -/
def ways (ignoreCase : Bool) : Expression → Place → List Place
  | nothing, place => [place]
  | textStart, place => if place.behind = [] then [place] else []
  | textEnd, place => if place.ahead = [] then [place] else []
  | one set, place => step ignoreCase set place
  | oneOrMore set, place => stretches ignoreCase set place.groups place.behind place.ahead
  | atMostOne set, place => step ignoreCase set place ++ [place]
  | group inner, place =>
    (inner.ways ignoreCase { place with groups := [] }).map fun last =>
      let read := place.ahead.take (place.ahead.length - last.ahead.length)
      { last with groups := place.groups ++ read :: last.groups }
  | both first second, place => (first.ways ignoreCase place).flatMap (second.ways ignoreCase)

/-- All places of a text, from the front to the back. -/
def places (behind : List Char) : List Char → List Place
  | [] => [⟨behind, [], []⟩]
  | c :: ahead => ⟨behind, c :: ahead, []⟩ :: places (c :: behind) ahead

/-- Searches a text for the first place from which an expression can be read, and gives what its groups read there in
the way that is tried first. -/
def search (ignoreCase : Bool) (expression : Expression) (text : String) : Option (List String) :=
  ((places [] text.toList).findSome? fun place => (expression.ways ignoreCase place).head?).map
    fun last => last.groups.map String.ofList

/-- The signs that have a meaning of their own in a written expression. -/
def isSign (c : Char) : Bool :=
  "\\.+*?()|[]\x7b\x7d^$#&-~".toList.contains c

/-- A text in which no character has a meaning of its own. -/
def escape (text : List Char) : List Char :=
  text.flatMap fun c => if isSign c then ['\\', c] else [c]

/-- Applies a sign of repetition to the last character that was read. -/
def repeatLast (repeated : CharSet → Expression) : Expression → Option Expression
  | both before (one set) => some (both before (repeated set))
  | _ => none

/-- Reads what follows an expression. The expressions around the groups that are still open are kept with the
innermost one first. -/
def readAfter (outer : List Expression) (current : Expression) : List Char → Option Expression
  | [] => if outer.isEmpty then some current else none
  | '\\' :: c :: more => if isSign c then readAfter outer (both current (one (.only c))) more else none
  | '[' :: '^' :: c :: ']' :: more =>
    if isSign c then none else readAfter outer (both current (one (.allBut c))) more
  | '(' :: more => readAfter (current :: outer) nothing more
  | ')' :: more =>
    match outer with
    | [] => none
    | before :: outer => readAfter outer (both before (group current)) more
  | '^' :: more => readAfter outer (both current textStart) more
  | '$' :: more => readAfter outer (both current textEnd) more
  | '+' :: more =>
    match repeatLast oneOrMore current with
    | none => none
    | some repeated => readAfter outer repeated more
  | '?' :: more =>
    match repeatLast atMostOne current with
    | none => none
    | some repeated => readAfter outer repeated more
  | c :: more => if isSign c then none else readAfter outer (both current (one (.only c))) more

/-- Reads a written expression. -/
def read? (text : String) : Option Expression :=
  readAfter [] nothing text.toList

end Expression

/-- The text of a literal segment stands for itself; a parameter is a group that reads up to a slash. -/
def Segment.matcherText : Segment → List Char
  | literal text => Expression.escape text.toList
  | param _ => "([^/]+)".toList

/-- The matcher of a template: a slash before each segment, and one that may close the path. -/
def Layout.matcherText (layout : Layout) : String :=
  String.ofList ('^' :: layout.segments.flatMap (fun segment => '/' :: segment.matcherText) ++ "/?$".toList)

end PageRouter
