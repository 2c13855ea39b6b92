import PageRouter.Route.Error
import PageRouter.Route.Query
import PageRouter.Url.Parse

namespace PageRouter

/-- A location: what an address says at one moment, in the parts that a router works with. -/
structure Location where
  /-- Scheme, host and port, or `null`. -/
  origin : String
  href : String
  pathname : String
  /-- The query with its question mark, or nothing. -/
  search : String
  /-- The fragment with its number sign, or nothing. -/
  hash : String
  deriving DecidableEq, Repr, Inhabited

namespace Location

def ofUrl (url : Url) : Location where
  origin := String.ofList url.origin
  href := String.ofList url.text
  pathname := String.ofList url.path
  search := ((url.query.map String.ofList).bind Query.normalizeSearch?).getD ""
  hash := ((url.fragment.map String.ofList).bind Query.normalizeHash?).getD ""

/-- The location that reading an address gives, where `text` is the address that an error names. -/
def ofResult (text : String) : Except UrlError Url → Except RouteError Location
  | .ok url => .ok (ofUrl url)
  | .error error => .error (.invalidLocation text (.malformed error))

def parse (href : String) : Except RouteError Location :=
  ofResult href (Url.parse href)

/-- Follows a target from here, the way a link does. -/
def join (location : Location) (target : String) : Except RouteError Location :=
  ofResult target (Url.parse location.href >>= (·.join target))

def path (location : Location) : String :=
  location.pathname ++ location.search ++ location.hash

def searchParams (location : Location) : List (String × String) :=
  Query.parse location.search

end Location

end PageRouter
