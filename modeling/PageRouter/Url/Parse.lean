import PageRouter.Url.Basic

namespace PageRouter.Url

def cutAtPathEnd (text : List Char) : List Char × List Char :=
  (text.takeWhile fun c => c != '?' && c != '#', text.dropWhile fun c => c != '?' && c != '#')

def withFragment (url : Url) (fragment : List Char) : Url :=
  { url with fragment := some (encodePart isEncodedInFragment fragment) }

def withTail (url : Url) (tail : List Char) : Url :=
  match tail with
  | '?' :: rest =>
    let query := encodePart (isEncodedInQuery url.kind.isSpecial) (rest.takeWhile (· ≠ '#'))
    let url := { url with query := some query, fragment := none }
    match rest.dropWhile (· ≠ '#') with
    | _ :: fragment => url.withFragment fragment
    | [] => url
  | '#' :: fragment => { url with query := none }.withFragment fragment
  | _ => { url with query := none, fragment := none }

/-- Sets the path to one that is extended by a text, and takes query and fragment from that text. -/
def extend (url : Url) (path text : List Char) : Url :=
  let (segments, tail) := cutAtPathEnd text
  { url with path := extendPath url.kind path segments }.withTail (dropBreaks tail)

/-- A text before and after its last at sign, if it has one. -/
def cutAtLastAt (text : List Char) : Option (List Char) × List Char :=
  if text.contains '@' then
    (some ((text.reverse.dropWhile (· ≠ '@')).drop 1).reverse, (text.reverse.takeWhile (· ≠ '@')).reverse)
  else (none, text)

/-- A host and what follows it, from the first colon outside of brackets on. -/
def cutAtPort : Bool → List Char → List Char × List Char
  | _, [] => ([], [])
  | inside, c :: rest =>
    if c == ':' && !inside then ([], c :: rest)
    else
      let (host, port) := cutAtPort (c == '[' || (inside && c != ']')) rest
      (c :: host, port)

/-- Reads a port, which is left out if it is the default of the scheme, and returns what follows. -/
def readPort (scheme text : List Char) : Except UrlError (Option Nat × List Char) :=
  let digits := text.takeWhile Char.isDigit
  let rest := text.dropWhile Char.isDigit
  let port := digits.foldl (fun value c => value * 10 + (c.toNat - 48)) 0
  if port > 65535 || (rest.head?.any (· != '\\')) then .error .invalidPort
  else if digits.isEmpty || some port = defaultPort? scheme then .ok (none, rest)
  else .ok (some port, rest)

/-- Reads user, host and port, and returns what follows. -/
def readAuthority (scheme text : List Char) : Except UrlError (Authority × List Char) := do
  let kind := SchemeKind.ofScheme scheme
  let authority := text.takeWhile (!kind.endsAuthority ·)
  let after := text.dropWhile (!kind.endsAuthority ·)
  let (user, hostAndPort) := cutAtLastAt authority
  if user = some [] && hostAndPort.isEmpty && !after.isEmpty then throw .emptyHost
  let (hostText, portText) := cutAtPort false hostAndPort
  if kind == .web && hostText.isEmpty then throw .emptyHost
  let host ← if kind.isSpecial then webHost hostText else opaqueHost hostText
  if host.isEmpty && !portText.isEmpty then throw .emptyHost
  let (port, rest) ← readPort scheme (portText.drop 1)
  let (username, password) := Text.cutAtFirst ':' (user.getD [])
  let username := encodePart isEncodedInUserinfo username
  let password := encodePart isEncodedInUserinfo password
  if host.isEmpty && !(username.isEmpty && password.isEmpty) then throw .emptyHost
  return ({ username, password, host, port }, rest ++ after)

def dropSlash : List Char → List Char
  | '/' :: rest => rest
  | '\\' :: rest => rest
  | text => text

/-- Reads what follows the double slash after a scheme. -/
def readAfterSlashes (scheme text : List Char) : Except UrlError Url := do
  let (authority, rest) ← readAuthority scheme text
  let url : Url := { scheme, authority := some authority }
  if url.kind.isSpecial then return url.extend ['/'] (dropSlash rest)
  match rest with
  | [] | '?' :: _ | '#' :: _ => return url.withTail rest
  | '/' :: _ => return url.extend [] rest
  | _ => return url.extend ['/'] rest

def isSlash (c : Char) : Bool :=
  c == '/' || c == '\\'

/-- Reads a text relative to a base that is no file. -/
def readRelative (base : Url) (text : List Char) : Except UrlError Url :=
  match text with
  | [] => .ok { base with fragment := none }
  | '?' :: _ => .ok (base.withTail text)
  | '#' :: fragment => .ok (base.withFragment fragment)
  | c :: rest =>
    if isSlash c then
      if rest.head?.any isSlash then
        readAfterSlashes base.scheme
          (if "//".toList.isPrefixOf text then text.drop 2 else text.dropWhile isSlash)
      else .ok (base.extend ['/'] rest)
    else
      let directory := dropLastSegment base.kind base.path
      .ok (base.extend (if directory.isEmpty then ['/'] else directory) text)

/-- A file address without host and path. -/
def fileUrl : Url :=
  { scheme := "file".toList, authority := some {} }

/-- Reads what follows the double slash of a file address. A drive at the root of the path takes the place of the
host. -/
def readFileHost (text : List Char) : Except UrlError Url := do
  let ends := fun c => isSlash c || c == '?' || c == '#'
  let hostText := dropBreaks (text.takeWhile (!ends ·))
  let rest := text.dropWhile (!ends ·)
  if hostText.isEmpty || isDrive hostText then
    return fileUrl.extend ['/'] (if hostText.isEmpty then rest else text)
  let host ← webHost hostText
  if host = "localhost".toList then return fileUrl.extend ['/'] rest
  let segments := pathSegments .file (cutAtPathEnd (dropSlash rest)).1
  let url := if meetsDrive ['/'] segments then fileUrl else { fileUrl with authority := some { host } }
  return url.extend ['/'] (dropSlash rest)

/-- The host or drive that a file path with one slash in front takes from its base. -/
def fileRoot (base : Option Url) (text : List Char) : Url × List Char :=
  match base with
  | none => (fileUrl, [])
  | some base =>
    let first := base.path.drop 1 |>.takeWhile (· ≠ '/')
    if startsWithDrive ((dropBreaks text).drop 1) then (fileUrl, [])
    else if isColonDrive first then (fileUrl, '/' :: first)
    else ({ fileUrl with authority := some { host := (base.authority.getD {}).host } }, [])

/-- Reads a file address, relative to a base if there is one that is a file. The breaks in the text are still
there. -/
def readFile (base : Option Url) (text : List Char) : Except UrlError Url :=
  let text := text.dropWhile isBreak
  match text with
  | c :: rest =>
    if isSlash c then
      let afterSlash := rest.dropWhile isBreak
      if afterSlash.head?.any isSlash then readFileHost (afterSlash.drop 1)
      else
        let (url, path) := fileRoot base text
        .ok (url.extend path text)
    else
      match base with
      | none => .ok (fileUrl.extend ['/'] text)
      | some base =>
        if c = '?' then .ok (base.withTail (dropBreaks text))
        else if c = '#' then .ok (base.withFragment (dropBreaks rest))
        else if startsWithDrive (dropBreaks text) then .ok (fileUrl.extend ['/'] text)
        else .ok (base.extend (dropLastSegment .file base.path) text)
  | [] =>
    match base with
    | none => .ok (fileUrl.extend ['/'] [])
    | some base => .ok { base with fragment := none }

/-- Reads what follows a scheme that is not one of the web. -/
def readOther (scheme text : List Char) : Except UrlError Url :=
  let url : Url := { scheme }
  match text with
  | '/' :: '/' :: rest => readAfterSlashes scheme rest
  | '/' :: rest => .ok (url.extend ['/'] rest)
  | _ =>
    let (path, tail) := cutAtPathEnd text
    .ok ({ url with path := encodePart isControl path }.withTail tail)

/-- Cuts a scheme off, in lower case and without breaks. -/
def cutScheme? (text : List Char) : Option (List Char × List Char) :=
  let isPart := fun c : Char => c.isAlphanum || c == '+' || c == '-' || c == '.' || isBreak c
  match text.head?, text.dropWhile isPart with
  | some first, ':' :: rest =>
    if first.isAlpha then some ((dropBreaks (text.takeWhile isPart)).map Char.toLower, rest) else none
  | _, _ => none

/-- Reads what follows a scheme. Breaks make no difference but in the paths of files. -/
def readScheme (base : Option Url) (scheme text : List Char) : Except UrlError Url :=
  match SchemeKind.ofScheme scheme with
  | .file => readFile (base.filter (·.kind == .file)) text
  | .other => readOther scheme (dropBreaks text)
  | .web =>
    let text := dropBreaks text
    match base with
    | some base =>
      if base.scheme = scheme && (text.takeWhile isSlash).length < 2 then readRelative base text
      else readAfterSlashes scheme (text.dropWhile isSlash)
    | none => readAfterSlashes scheme (text.dropWhile isSlash)

/-- Drops controls and spaces at both ends. -/
def strip (text : List Char) : List Char :=
  let isBlank := fun c : Char => c.toNat ≤ 0x20
  ((text.dropWhile isBlank).reverse.dropWhile isBlank).reverse

def read (base : Option Url) (text : List Char) : Except UrlError Url :=
  let text := strip text
  match cutScheme? text, base with
  | some (scheme, rest), base => readScheme base scheme rest
  | none, none => .error .relativeWithoutBase
  | none, some base =>
    match text with
    | '#' :: fragment => .ok (base.withFragment (dropBreaks fragment))
    | _ =>
      if base.isOpaque then .error .opaqueBase
      else if base.kind == .file then readFile (some base) text
      else readRelative base (dropBreaks text)

def parse (text : String) : Except UrlError Url :=
  read none text.toList

/-- Reads a target relative to this address. -/
def join (base : Url) (target : String) : Except UrlError Url :=
  read (some base) target.toList

/-- The origin of an address, if its scheme gives it one. The origin of a `blob` address is that of the
address in its path; `depth` bounds how many of these stand inside each other. -/
def originWithin? : Nat → Url → Option (List Char)
  | 0, _ => none
  | depth + 1, url =>
    if url.scheme = "blob".toList then
      match read none url.path with
      | .ok inner => inner.originWithin? depth
      | .error _ => none
    else url.webOrigin?

/-- The origin of an address as text, `null` if it has none. -/
def origin (url : Url) : List Char :=
  (url.originWithin? (url.path.length + 1)).getD "null".toList

end PageRouter.Url
