import PageRouter.Url.Domain
import PageRouter.Url.Encode
import PageRouter.Url.Error
import PageRouter.Url.Ipv6

namespace PageRouter.Url

/-- How a scheme reads what follows its colon. -/
inductive SchemeKind where
  /-- Local files. -/
  | file
  /-- The schemes of the web, whose addresses always have a host. -/
  | web
  | other
  deriving DecidableEq, Repr

def defaultPort? (scheme : List Char) : Option Nat :=
  match String.ofList scheme with
  | "http" | "ws" => some 80
  | "https" | "wss" => some 443
  | "ftp" => some 21
  | _ => none

def SchemeKind.ofScheme (scheme : List Char) : SchemeKind :=
  if scheme = "file".toList then file
  else if (defaultPort? scheme).isSome then web
  else other

/-- Whether backslashes are slashes and single quotes are encoded. -/
def SchemeKind.isSpecial (kind : SchemeKind) : Bool :=
  kind != other

/-- Whether a character ends the part of an address that holds the host. -/
def SchemeKind.endsAuthority (kind : SchemeKind) (c : Char) : Bool :=
  c == '/' || c == '?' || c == '#' || (kind.isSpecial && c == '\\')

def bracketHost (text : List Char) : Except UrlError (List Char) :=
  if text.getLast? != some ']' then .error .invalidIpv6
  else
    match ipv6? (text.drop 1).dropLast with
    | some address => .ok ('[' :: address ++ [']'])
    | none => .error .invalidIpv6

/-- Reads a host of the web: an address in brackets, a number, or a domain. -/
def webHost (text : List Char) : Except UrlError (List Char) :=
  match text with
  | '[' :: _ => bracketHost text
  | _ =>
    match domain? text with
    | none => .error .invalidDomain
    | some [] => .error .emptyHost
    | some domain =>
      if endsInNumber domain then
        match ipv4? domain with
        | some address => .ok address
        | none => .error .invalidIpv4
      else .ok domain

/-- Reads a host of another scheme, which stays as it is. -/
def opaqueHost (text : List Char) : Except UrlError (List Char) :=
  match text with
  | '[' :: _ => bracketHost text
  | _ =>
    if text.any fun c => "\x00\t\n\r #/:<>?@[\\]^|".toList.contains c then .error .invalidHostCharacter
    else .ok (encodePart isControl text)

end PageRouter.Url
