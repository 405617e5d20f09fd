import ScanFleet.Url.Basic
import ScanFleet.Url.Domain

/-! Reading URLs.  Blanks and control characters around a URL and line breaks in it are dropped, the
scheme and the domain are put into lower case, the segments `.` and `..` of a path are resolved, and
what a part cannot hold is percent-encoded. -/

namespace ScanFleet.Url

open Text

/-- How the rest of a URL is read, by its scheme. -/
inductive SchemeKind where
  | file
  /-- The other schemes of the web, which always have a host. -/
  | special
  | other
deriving DecidableEq, Repr

def SchemeKind.of (scheme : String) : SchemeKind :=
  if scheme == "file" then .file
  else if ["http", "https", "ws", "wss", "ftp"].contains scheme then .special
  else .other

/-- The port that a scheme uses unless another is given. -/
def usualPort? (scheme : String) : Option Nat :=
  [("http", 80), ("ws", 80), ("https", 443), ("wss", 443), ("ftp", 21)].lookup scheme

def isLetter (c : Char) : Bool := ('a' ≤ c && c ≤ 'z') || ('A' ≤ c && c ≤ 'Z')

/-- The scheme and what follows its colon. -/
def scheme? (cs : List Char) : Option (String × List Char) :=
  match splitAt ':' cs with
  | some (name@(c :: _), rest) =>
    if isLetter c && name.all fun c => isLetter c || isDigit c || "+-.".toList.contains c then
      some (asciiLower (String.ofList name), rest)
    else none
  | _ => none

/-- Whether a character separates the segments of a path. -/
def isSlash (kind : SchemeKind) (c : Char) : Bool := c == '/' || (c == '\\' && kind != .other)

/-- Whether a character ends the authority. -/
def endsAuthority (kind : SchemeKind) (c : Char) : Bool := isSlash kind c || c == '?' || c == '#'

/-- What stands before and after the last `@` of a text. -/
def splitUserinfo (cs : List Char) : Option (List Char × List Char) :=
  (splitAt '@' cs.reverse).map fun (after, before) => (before.reverse, after.reverse)

/-- The user name and the password, whose parts are separated by the first colon. -/
def userinfo (cs : List Char) : String × String :=
  match splitAt ':' cs with
  | some (name, password) => (encode .userinfo name, encode .userinfo password)
  | none => (encode .userinfo cs, "")

/-- The host and what follows it, which begins with a colon if there is a port. -/
def spanHost (inBrackets : Bool) : List Char → List Char × List Char
  | [] => ([], [])
  | c :: cs =>
    if c == ':' && !inBrackets then ([], c :: cs)
    else
      let inBrackets := if c == '[' then true else if c == ']' then false else inBrackets
      let (host, rest) := spanHost inBrackets cs
      (c :: host, rest)

/-- A number of an address: hexadecimal after `0x`, octal after another zero, and decimal else. -/
def addressNumber? : List Char → Option Nat
  | '0' :: c :: cs =>
    if c == 'x' || c == 'X' then if cs.isEmpty then some 0 else naturalIn? 16 cs
    else naturalIn? 8 (c :: cs)
  | cs => natural? cs

/-- The labels of a domain, without an empty one at the end. -/
def labels (name : List Char) : List (List Char) :=
  let all := split (· == '.') name
  match all.reverse with
  | [] :: rest@(_ :: _) => rest.reverse
  | _ => all

/-- Whether a domain has to be an address because its last label is a number. -/
def endsInNumber (name : List Char) : Bool :=
  match (labels name).getLast? with
  | some [] | none => false
  | some label => label.all isDigit || (label.head? == some '0' && (addressNumber? label).isSome)

/-- The address that up to four numbers stand for; the last one fills what is left. -/
def addressOf? (numbers : List Nat) : Option Nat :=
  match numbers.reverse with
  | [] => none
  | last :: front =>
    if 4 < numbers.length || front.any (255 < ·) || Nat.pow 256 (5 - numbers.length) ≤ last then
      none
    else
      let high := front.reverse.foldl (fun acc n => acc * 256 + n) 0
      some (high * Nat.pow 256 (5 - numbers.length) + last)

/-- The host of a special URL. -/
def specialHost (cs : List Char) : Except UrlError Host :=
  match cs with
  | [] => .error .emptyHost
  | '[' :: inner =>
    match inner.getLast?, readPieces? inner.dropLast with
    | some ']', some pieces => .ok (.address (.v6 pieces))
    | _, _ => .error .invalidIpv6
  | cs =>
    match decodeText? (String.ofList cs) with
    | none => .error .invalidDomain
    | some decoded =>
      match Domain.ascii? decoded.toList with
      | none => .error .invalidDomain
      | some name =>
        if name.isEmpty then .error .emptyHost
        else if endsInNumber name.toList then
          match ((labels name.toList).mapM addressNumber?).bind addressOf? with
          | some n => .ok (.address (.v4 n))
          | none => .error .invalidIpv4
        else .ok (.domain name)

/-- The host of any other URL. -/
def writtenHost (cs : List Char) : Except UrlError Host :=
  match cs with
  | '[' :: inner =>
    match inner.getLast?, readPieces? inner.dropLast with
    | some ']', some pieces => .ok (.address (.v6 pieces))
    | _, _ => .error .invalidIpv6
  | cs =>
    if cs.any Domain.isForbiddenInHost then .error .invalidDomainCharacter
    else .ok (.written (encode .host cs))

/-- The port after a colon.  A colon without digits after it is no port. -/
def readPort (scheme : String) (cs : List Char) : Except UrlError (Option Nat) :=
  if cs.isEmpty then .ok none
  else match natural? cs with
    | some n =>
      if maxU16 < n then .error .invalidPort
      else .ok (if usualPort? scheme = some n then none else some n)
    | none => .error .invalidPort

/-- The authority in the text between the slashes and the path, and what is left of the text.  A
port ends at a backslash.  `isLast` says whether the URL ends with the text. -/
def readAuthority (scheme : String) (kind : SchemeKind) (isLast : Bool) (cs : List Char) :
    Except UrlError (Authority × List Char) := do
  let (user, hostPort) ← match splitUserinfo cs with
    | none => pure (none, cs)
    | some ([], []) => if isLast then pure (none, []) else .error .emptyHost
    | some (user, rest) => pure (some (userinfo user), rest)
  let (hostText, rest) := spanHost false hostPort
  let host ← if kind == .other then writtenHost hostText else specialHost hostText
  let (username, password) := user.getD ("", "")
  if host.isEmpty && (!rest.isEmpty || !username.isEmpty || !password.isEmpty) then
    .error .emptyHost
  match rest with
  | [] => return (⟨username, password, host, none⟩, [])
  | _ :: text =>
    let digits := text.takeWhile (· != '\\')
    return (⟨username, password, host, ← readPort scheme digits⟩, text.drop digits.length)

def isSingleDot (s : String) : Bool := [".", "%2e"].contains (asciiLower s)

def isDoubleDot (s : String) : Bool :=
  ["..", ".%2e", "%2e.", "%2e%2e"].contains (asciiLower s)

/-- Whether a segment names a drive. -/
def isDrive (s : String) : Bool :=
  match s.toList with
  | [c, mark] => isLetter c && (mark == ':' || mark == '|')
  | _ => false

/-- The segments before those that are left by two dots, in reverse; they do not lead out of a
drive. -/
def leave : List String → List String
  | [] => []
  | s :: before => if isDrive s then s :: before else before

/-- The segments of a path with the dots resolved; those so far stand in reverse. -/
def resolve (acc : List String) : List String → List String
  | [] => acc.reverse
  | [s] =>
    (if isDoubleDot s then "" :: leave acc else if isSingleDot s then "" :: acc
      else s :: acc).reverse
  | s :: rest =>
    resolve (if isDoubleDot s then leave acc else if isSingleDot s then acc else s :: acc) rest

/-- The segments of a path from its first slash on. -/
def readSegments (kind : SchemeKind) (cs : List Char) : List String :=
  let inner := match cs with
    | c :: rest => if isSlash kind c then rest else c :: rest
    | [] => []
  resolve [] ((split (isSlash kind) inner).map (encode .path))

/-- A segment that names a drive with a colon after the letter; any other stays. -/
def driveSegment (s : String) : String :=
  if isDrive s then String.ofList (s.toList.take 1 ++ [':']) else s

/-- The segments of the path of a file, without empty ones at the front. -/
def fileSegments (cs : List Char) : List String :=
  match ((readSegments .file cs).map driveSegment).dropWhile (·.isEmpty) with
  | [] => [""]
  | names => names

/-- What stands before and after the first `c`, if there is one. -/
def cutAt (c : Char) (cs : List Char) : List Char × Option (List Char) :=
  match splitAt c cs with
  | some (before, after) => (before, some after)
  | none => (cs, none)

/-- The URL with this authority and the path in `cs`. -/
def withPath (scheme : String) (kind : SchemeKind) (authority : Option Authority) (cs : List Char)
    (query fragment : Option (List Char)) : Url where
  scheme := scheme
  authority := authority
  path :=
    if kind == .other && authority.isNone && cs.head? != some '/' then .rootless (encode .host cs)
    else if kind == .other && cs.isEmpty then .segments []
    else .segments (if kind == .file then fileSegments cs else readSegments kind cs)
  query := query.map (encode (if kind == .other then .query else .specialQuery))
  fragment := fragment.map (encode .fragment)

/-- The authority of a `file` URL, and what follows it.  There is none where the name of a drive
stands in its place, or anywhere in the path. -/
def fileAuthority (cs : List Char) : Except UrlError (Authority × List Char) :=
  let here : Authority := ⟨"", "", .written "", none⟩
  match cs with
  | a :: b :: rest =>
    let host := rest.takeWhile (! isSlash .file ·)
    let path := rest.drop host.length
    if !(isSlash .file a && isSlash .file b) then .ok (here, cs)
    else if host.isEmpty || isDrive (String.ofList host) then .ok (here, rest)
    else (specialHost host).map fun h =>
      let isHere := h = .domain "localhost" || (fileSegments path).any isDrive
      (if isHere then here else { here with host := h }, path)
  | _ => .ok (here, cs)

/-- Whether a character is dropped at the ends of a URL. -/
def isTrimmed (c : Char) : Bool := c.toNat ≤ 0x20

/-- Whether a character is dropped wherever it stands. -/
def isSkipped (c : Char) : Bool := c == '\t' || c == '\n' || c == '\r'

/-- The URL that a text stands for. -/
def read (s : String) : Except UrlError Url :=
  match scheme? ((trimBy isTrimmed s.toList).filter (! isSkipped ·)) with
  | none => .error .relative
  | some (scheme, rest) =>
    let (rest, fragment) := cutAt '#' rest
    let (rest, query) := cutAt '?' rest
    let kind := SchemeKind.of scheme
    let withAuthority (rest : List Char) : Except UrlError Url :=
      let authority := rest.takeWhile (! endsAuthority kind ·)
      let path := rest.drop authority.length
      let isLast := path.isEmpty && query.isNone && fragment.isNone
      (readAuthority scheme kind isLast authority).map fun (a, left) =>
        withPath scheme kind (some a) (left ++ path) query fragment
    match kind with
    | .file => (fileAuthority rest).map fun (a, rest) =>
        withPath scheme kind (some a) rest query fragment
    | .special => withAuthority (rest.dropWhile (isSlash kind))
    | .other =>
      match rest with
      | '/' :: '/' :: rest => withAuthority rest
      | _ => .ok (withPath scheme kind none rest query fragment)

end ScanFleet.Url
