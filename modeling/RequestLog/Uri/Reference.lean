import RequestLog.Text.Quoted
import RequestLog.Uri.IpAddress

/-!
# URI references

A reference is split into scheme, network location, path, query and fragment, and put together again
from them. Splitting drops leading blanks and controls and every tab and line break; it refuses
locations with unbalanced or misplaced brackets, with anything but an address between them, and with
characters that a normalising reader would take for a separator.
-/

namespace RequestLog.Uri

structure Parts where
  scheme : Text
  netloc : Text
  path : Text
  query : Text
  fragment : Text
  deriving DecidableEq, Repr

inductive Fault where
  | brackets
  | future
  | bracketedV4
  | notAddress (host : Text)
  | separator (netloc : Text)
  deriving DecidableEq, Repr

def Fault.message : Fault → Text
  | .brackets => "Invalid IPv6 URL".toList
  | .future => "IPvFuture address is invalid".toList
  | .bracketedV4 => "An IPv4 address cannot be in brackets".toList
  | .notAddress host =>
    Quoted.quote host ++ " does not appear to be an IPv4 or IPv6 address".toList
  | .separator netloc =>
    "netloc '".toList ++ netloc ++
      "' contains invalid characters under NFKC normalization".toList

def isBreak (c : Char) : Bool := c = '\t' || c = '\n' || c = '\r'

/-- Leading blanks and controls go, and then all tabs and line breaks. -/
def clean (url : Text) : Text :=
  (url.dropWhile fun c => c.toNat ≤ 0x20).filter fun c => !isBreak c

def isSchemeChar (c : Char) : Bool := c.isAlphanum || c = '+' || c = '-' || c = '.'

/-- A scheme begins with a letter and ends at the first colon. -/
def splitScheme (url : Text) : Text × Text :=
  match cut ':' url with
  | (c :: name, some rest) =>
    if c.isAlpha && name.all isSchemeChar then ((c :: name).map Char.toLower, rest) else ([], url)
  | _ => ([], url)

def endsNetloc (c : Char) : Bool := c = '/' || c = '?' || c = '#'

/-- The network location behind two slashes, and the rest. -/
def splitNetloc (url : Text) : Text × Text :=
  match url with
  | '/' :: '/' :: rest =>
    (rest.takeWhile fun c => !endsNetloc c, rest.dropWhile fun c => !endsNetloc c)
  | _ => ([], url)

/-- An address of a future version: `v`, hexadecimal digits, a dot, and something more. -/
def isFuture (host : Text) : Bool :=
  match host with
  | 'v' :: rest =>
    let version := rest.takeWhile Digits.isHex
    match rest.dropWhile Digits.isHex with
    | '.' :: more => !version.isEmpty && !more.isEmpty
    | _ => false
  | _ => false

def checkBracketedHost (host : Text) : Except Fault Unit :=
  if host.head? = some 'v' then if isFuture host then .ok () else .error .future
  else if IpAddress.isV4 host then .error .bracketedV4
  else if IpAddress.isV6 host then .ok ()
  else .error (.notAddress host)

/-- The host between the brackets of a location that has both; without a bracket behind the user
part, the host before the port. -/
def bracketedHost (netloc : Text) : Except Fault Text :=
  let hostAndPort := (cutLast '@' netloc).2
  match cut '[' hostAndPort with
  | (before, some bracketed) =>
    if !before.isEmpty then .error .brackets
    else
      match cut ']' bracketed with
      | (host, some (c :: _)) => if c = ':' then .ok host else .error .brackets
      | (host, _) => .ok host
  | (_, none) => .ok (cut ':' hostAndPort).1

def checkBrackets (netloc : Text) : Except Fault Unit :=
  if netloc.contains '[' != netloc.contains ']' then .error .brackets
  else if netloc.contains '[' then bracketedHost netloc >>= checkBracketedHost
  else .ok ()

/-- Characters whose compatibility form has a slash, question mark, number sign, at sign or
colon. -/
def hidesSeparator (c : Char) : Bool :=
  [0x2047, 0x2048, 0x2049, 0x2100, 0x2101, 0x2105, 0x2106, 0x2A74, 0xFE13, 0xFE16, 0xFE55, 0xFE56,
    0xFE5F, 0xFE6B, 0xFF03, 0xFF0F, 0xFF1A, 0xFF1F, 0xFF20].contains c.toNat

def checkNetloc (netloc : Text) : Except Fault Unit :=
  if netloc.any hidesSeparator then .error (.separator netloc) else .ok ()

def parts (url : Text) : Parts :=
  let (scheme, rest) := splitScheme (clean url)
  let (netloc, rest) := splitNetloc rest
  let (rest, fragment) := cut '#' rest
  let (path, query) := cut '?' rest
  ⟨scheme, netloc, path, query.getD [], fragment.getD []⟩

def split (url : Text) : Except Fault Parts :=
  let p := parts url
  checkBrackets p.netloc >>= fun _ => checkNetloc p.netloc >>= fun _ => .ok p

/-- Schemes whose references have a network location, which may be empty. -/
def netlocSchemes : List Text :=
  ["ftp", "http", "gopher", "nntp", "telnet", "imap", "wais", "file", "mms", "https", "shttp",
    "snews", "prospero", "rtsp", "rtspu", "rsync", "svn", "svn+ssh", "sftp", "nfs", "git",
    "git+ssh", "ws", "wss"].map String.toList

def startsDoubleSlash (path : Text) : Bool :=
  match path with
  | '/' :: '/' :: _ => true
  | _ => false

def hasLocation (p : Parts) : Bool :=
  !p.netloc.isEmpty || (netlocSchemes.contains p.scheme && !startsDoubleSlash p.path)

/-- A path behind a network location begins with a slash, unless it is empty. -/
def rooted (path : Text) : Text :=
  match path with
  | [] => []
  | c :: rest => if c = '/' then c :: rest else '/' :: c :: rest

def introduced (mark : Char) (t : Text) : Text := if t.isEmpty then [] else mark :: t

def unsplit (p : Parts) : Text :=
  (if p.scheme.isEmpty then [] else p.scheme ++ [':']) ++
    (if hasLocation p then '/' :: '/' :: p.netloc ++ rooted p.path else p.path) ++
    introduced '?' p.query ++ introduced '#' p.fragment

/-- The user named before the last at sign of the network location. -/
def Parts.username? (p : Parts) : Option Text :=
  match cutLast '@' p.netloc with
  | (some userinfo, _) => some (cut ':' userinfo).1
  | (none, _) => none

/-- The path, or a slash for an empty one, and the query. -/
def Parts.requestUri (p : Parts) : Text :=
  (if p.path.isEmpty then ['/'] else p.path) ++ introduced '?' p.query

end RequestLog.Uri
