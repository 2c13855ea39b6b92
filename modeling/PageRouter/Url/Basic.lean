import PageRouter.Url.Path

namespace PageRouter

/-- Who an address belongs to: user, host and port. All texts are percent-encoded already. -/
structure Authority where
  username : List Char := []
  password : List Char := []
  /-- The host as it is written, or nothing. -/
  host : List Char := []
  port : Option Nat := none
  deriving DecidableEq, Repr

def Authority.text (authority : Authority) : List Char :=
  let password := if authority.password.isEmpty then [] else ':' :: authority.password
  let user := authority.username ++ password
  let port := match authority.port with
    | some port => ':' :: (toString port).toList
    | none => []
  (if user.isEmpty then [] else user ++ ['@']) ++ authority.host ++ port

/-- An address in parts. All texts are percent-encoded already. -/
structure Url where
  scheme : List Char
  authority : Option Authority := none
  path : List Char := []
  query : Option (List Char) := none
  fragment : Option (List Char) := none
  deriving DecidableEq, Repr

namespace Url

def kind (url : Url) : SchemeKind :=
  .ofScheme url.scheme

/-- Whether the path is a text of its own that relative addresses cannot extend. -/
def isOpaque (url : Url) : Bool :=
  url.authority.isNone && url.path.head? != some '/'

/-- The address up to and without the query. -/
def textBeforeQuery (url : Url) : List Char :=
  let authority := match url.authority with
    | some authority => "//".toList ++ authority.text
    | none => if "//".toList.isPrefixOf url.path then "/.".toList else []
  url.scheme ++ ':' :: authority ++ url.path

def text (url : Url) : List Char :=
  let query := match url.query with
    | some query => '?' :: query
    | none => []
  let fragment := match url.fragment with
    | some fragment => '#' :: fragment
    | none => []
  url.textBeforeQuery ++ query ++ fragment

/-- The origin of an address of the web. -/
def webOrigin? (url : Url) : Option (List Char) :=
  match url.kind, url.authority with
  | .web, some authority =>
    some (url.scheme ++ "://".toList ++ { authority with username := [], password := [] }.text)
  | _, _ => none

end Url

end PageRouter
