import PageRouter.Text.Split
import PageRouter.Url.Host

namespace PageRouter.Url

/-- The spellings of the segment that adds nothing. -/
def isSingleDot (segment : List Char) : Bool :=
  ([".", "%2e"].map String.toList).contains (segment.map Char.toLower)

def isDoubleDot (segment : List Char) : Bool :=
  (["..", ".%2e", "%2e.", "%2e%2e"].map String.toList).contains (segment.map Char.toLower)

/-- Whether a segment is the name of a drive: a letter and a colon, or a bar in place of the colon. -/
def isDrive : List Char → Bool
  | [letter, sign] => letter.isAlpha && (sign == ':' || sign == '|')
  | _ => false

/-- Whether a segment is the name of a drive with a colon. -/
def isColonDrive (segment : List Char) : Bool :=
  isDrive segment && segment.getLast? == some ':'

/-- Whether a character is one of those that an address may hold anywhere and that do not count: a tab or a line
break. -/
def isBreak (c : Char) : Bool :=
  c == '\t' || c == '\n' || c == '\r'

def dropBreaks (text : List Char) : List Char :=
  text.filter (!isBreak ·)

/-- Whether a tab or a line break stands between a drive with a colon and more text. -/
def hasBreakAfterDrive (segment : List Char) : Bool :=
  match segment.dropWhile isBreak with
  | letter :: rest =>
    match rest.dropWhile isBreak with
    | ':' :: c :: rest => letter.isAlpha && isBreak c && rest.any (!isBreak ·)
    | _ => false
  | [] => false

/-- Whether a text begins with a drive that is a segment of its own. -/
def startsWithDrive : List Char → Bool
  | letter :: sign :: rest =>
    isDrive [letter, sign] &&
      match rest with
      | [] => true
      | c :: _ => c == '/' || c == '\\' || c == '?' || c == '#'
  | _ => false

/-- Drops what follows the last slash of a trail, which is a path back to front. The drive of a file path stays. -/
def dropTrailSegment (kind : SchemeKind) (trail : List Char) : List Char :=
  let segment := (trail.takeWhile (· ≠ '/')).reverse
  if kind == .file && isColonDrive segment then trail else trail.dropWhile (· ≠ '/')

/-- Drops what follows the last slash of a path. The drive of a file path stays. -/
def dropLastSegment (kind : SchemeKind) (path : List Char) : List Char :=
  (dropTrailSegment kind path.reverse).reverse

/-- Whether the slash at the end of a path can go, so that the segment before it becomes the last one. The
slash at the root stays, and so does the one after a drive. -/
def canDropSlash : List Char → Bool
  | '/' :: trail =>
    let segment := (trail.takeWhile (· ≠ '/')).reverse
    trail.contains '/' && !startsWithDrive (segment ++ ['/'])
  | _ => false

/-- Takes back the last segment of a trail. -/
def takeBack (kind : SchemeKind) (trail : List Char) : List Char :=
  dropTrailSegment kind (if canDropSlash trail then trail.drop 1 else trail)

/-- A trail with a slash at the end of its path. -/
def closeSlash (trail : List Char) : List Char :=
  if trail.head? == some '/' then trail else '/' :: trail

/-- Puts a segment at the end of a path, where a single dot adds nothing and a double dot takes back the segment
before it; `closed` tells whether a slash follows it. A drive at the root of a file path is written with a colon;
where a break cuts it off from what follows, a slash is put there, and what follows is no segment of its own. -/
def addSegment (kind : SchemeKind) (trail segment : List Char) (closed : Bool) : List Char :=
  let text := encodePart isEncodedInPath (dropBreaks segment)
  let atRoot := kind == .file && trail == ['/']
  let add (text : List Char) := (if closed then ['/'] else []) ++ text.reverse ++ trail
  if atRoot && hasBreakAfterDrive segment then add (text.take 2 ++ '/' :: text.drop 2)
  else if isDoubleDot text then
    let trail := takeBack kind trail
    if closed then closeSlash trail else trail
  else if isSingleDot text then closeSlash trail
  else if atRoot && isDrive text then add (text.take 1 ++ [':'])
  else add text

/-- Puts segments at the end of a path; all but the last one are followed by slashes. -/
def addSegments (kind : SchemeKind) (trail : List Char) : List (List Char) → List Char
  | [] => trail
  | [last] => addSegment kind trail last false
  | segment :: more => addSegments kind (addSegment kind trail segment true) more

/-- Whether one of some segments is a drive at the root when they are put at the end of a file path. -/
def meetsDrive (trail : List Char) : List (List Char) → Bool
  | [] => false
  | segment :: more =>
    (trail == ['/'] && isDrive (dropBreaks segment)) || meetsDrive (addSegment .file trail segment true) more

def pathSegments (kind : SchemeKind) (text : List Char) : List (List Char) :=
  Text.pieces '/' (if kind.isSpecial then text.map fun c => if c = '\\' then '/' else c else text)

def joinPath (kind : SchemeKind) (path text : List Char) : List Char :=
  let segments := pathSegments kind text
  let opened := kind == .file && isColonDrive (path.drop 1) && segments.head?.any (·.any (!isBreak ·))
  (addSegments kind (if opened then '/' :: path.reverse else path.reverse) segments).reverse

/-- Puts the segments of a text at the end of a path. A file path keeps one slash in front. -/
def extendPath (kind : SchemeKind) (path text : List Char) : List Char :=
  let joined := joinPath kind path text
  if kind == .file then '/' :: joined.dropWhile (· = '/') else joined

end PageRouter.Url
