import FleetConfig.Text.Split
import FleetConfig.Url.Host

/-!
# Web addresses

A web address has a scheme, and, after two slashes, an authority with a host; then come a path, a
query and a fragment. Schemes of the web have rules of their own: their slashes lean either way, and
they always have a host.

## Main definitions

* `Url.Fault`, `Url.Fault.message` — why a text is no address.
* `Url.Scheme` — the three families of schemes.
* `Url`, `Url.parse` — the parts of an address.
-/

namespace FleetConfig

/-- The parts of a web address. -/
structure Url where
  /-- What stands before the first colon, in lower case. -/
  scheme : String
  /-- What stands before the host and its at sign. -/
  userinfo : List Char := []
  /-- The host, if there is one. -/
  host : Option (List Char) := none
  /-- The path, without dot segments where the address has a host. -/
  path : List Char := []
  /-- What follows a question mark. -/
  query : Option (List Char) := none
  /-- What follows a number sign. -/
  fragment : Option (List Char) := none
deriving DecidableEq

namespace Url

/-! ### Schemes -/

/-- Families of schemes. -/
inductive Family where
  /-- A scheme of the web, with a host. -/
  | web
  /-- Files, whose host may be absent. -/
  | file
  /-- Any other scheme. -/
  | other
deriving DecidableEq, Repr

/-- The family of a scheme. -/
def Family.ofScheme (scheme : String) : Family :=
  if ["http", "https", "ws", "wss", "ftp"].contains scheme then .web
  else if scheme = "file" then .file
  else .other

/-- Holds of the characters of schemes after the first. -/
def isSchemeChar (c : Char) : Bool := c.isAlphanum || c == '+' || c == '-' || c == '.'

/-- The scheme at the front and what follows its colon. -/
def takeScheme (cs : List Char) : Except Fault (String × List Char) :=
  match cs.head?.any Char.isAlpha, cs.dropWhile isSchemeChar with
  | true, ':' :: rest => .ok ((String.ofList (cs.takeWhile isSchemeChar)).toLower, rest)
  | _, _ => .error .noScheme

/-! ### Text that does not count -/

/-- Holds of the characters that are dropped at both ends. -/
def isEdge (c : Char) : Bool := c.toNat ≤ 0x20

/-- Holds of the characters that are dropped everywhere. -/
def isBreak (c : Char) : Bool := c == '\t' || c == '\n' || c == '\r'

/-- An address without the characters that do not count. -/
def clean (cs : List Char) : List Char :=
  ((cs.dropWhile isEdge).reverse.dropWhile isEdge).reverse.filter (!isBreak ·)

/-! ### Authority -/

/-- Holds of slashes; on the web they lean either way. -/
def isSlash (family : Family) (c : Char) : Bool := c == '/' || (c == '\\' && family != .other)

/-- Holds of the characters that end an authority. -/
def endsAuthority (family : Family) (c : Char) : Bool := isSlash family c || c == '?' || c == '#'

/-- The user information and the rest: the last at sign ends the user information. -/
def takeUserinfo (family : Family) (cs : List Char) : Except Fault (List Char × List Char) :=
  let authority := cs.takeWhile (!endsAuthority family ·)
  let rest := cs.dropWhile (!endsAuthority family ·)
  match Text.cutLast '@' authority with
  | none => .ok ([], cs)
  | some ([], []) => if rest.isEmpty then .ok ([], []) else .error .emptyHost
  | some (userinfo, host) => .ok (userinfo, host ++ rest)

/-- Holds of user information with a name or a password in it. -/
def hasCredentials (userinfo : List Char) : Bool := !userinfo.isEmpty && userinfo != [':']

/-- The host at the front and what follows it. A colon ends the host, but not between brackets. -/
def takeHost (family : Family) (inBrackets : Bool) : List Char → List Char × List Char
  | [] => ([], [])
  | c :: cs =>
    if endsAuthority family c || (c == ':' && !inBrackets) then ([], c :: cs)
    else
      let (host, rest) := takeHost family (c == '[' || (inBrackets && c != ']')) cs
      (c :: host, rest)

/-- Skips a port. It may be empty, has to fit 16 bits and is the end of the authority. -/
def skipPort : List Char → Except Fault (List Char)
  | ':' :: cs =>
    let rest := cs.dropWhile Char.isDigit
    if 65535 < Number.ofDigits 10 (cs.takeWhile Char.isDigit) then .error .badPort
    else
      match rest with
      | [] => .ok []
      | c :: _ => if ['/', '\\', '?', '#'].contains c then .ok rest else .error .badPort
  | cs => .ok cs

/-- Reads the user information, the host and the port at the front; gives the first two and what
follows. An empty host is none. -/
def takeAuthority (family : Family) (cs : List Char) :
    Except Fault (List Char × Option (List Char) × List Char) := do
  let (userinfo, rest) ← takeUserinfo family cs
  let (text, rest) := takeHost family false rest
  let host ← (if family = .other then Host.parseOpaque text else Host.parse text)
  if host.isEmpty && rest.head? == some ':' then .error .emptyHost
  let rest ← skipPort rest
  if host.isEmpty then
    if hasCredentials userinfo then .error .emptyHost else return (userinfo, none, rest)
  else return (userinfo, some host, rest)

/-! ### Path -/

/-- Holds of a segment that stands for the directory itself. -/
def isSingleDot (segment : List Char) : Bool :=
  [".", "%2e"].contains (String.ofList segment).toLower

/-- Holds of a segment that stands for the directory above. -/
def isDoubleDot (segment : List Char) : Bool :=
  ["..", ".%2e", "%2e.", "%2e%2e"].contains (String.ofList segment).toLower

/-- Holds of a drive letter, a letter with a colon or a bar after it. -/
def isDriveLetter : List Char → Bool
  | [c, d] => c.isAlpha && (d == ':' || d == '|')
  | _ => false

/-- Holds of a segment that cannot be left: a drive letter, which may be followed by a backslash. -/
def isDrive (segment : List Char) : Bool :=
  isDriveLetter (segment.take 2) && (segment.drop 2).head?.all (· == '\\')

/-- Leaves a directory, unless it is a drive. -/
def leave : List (List Char) → List (List Char)
  | [] => []
  | s :: ss => if isDrive s then s :: ss else ss

/-- Resolves the dot segments of a path. `stack` holds the segments so far, the last one first. -/
def resolve (stack : List (List Char)) : List (List Char) → List (List Char)
  | [] => stack.reverse
  | [last] =>
    if isDoubleDot last then ([] :: leave stack).reverse
    else if isSingleDot last then ([] :: stack).reverse
    else (last :: stack).reverse
  | s :: next :: rest =>
    if isDoubleDot s then resolve (leave stack) (next :: rest)
    else if isSingleDot s then resolve stack (next :: rest)
    else resolve (s :: stack) (next :: rest)

/-- The segments between slashes. -/
def segments (family : Family) (cs : List Char) : List (List Char) :=
  Text.pieces '/' (cs.map fun c => if isSlash family c then '/' else c)

/-- The path of resolved segments. Slashes at the front of a file's path are one. -/
def pathOf (family : Family) (ss : List (List Char)) : List Char :=
  let path := ss.flatMap ('/' :: ·)
  if family = .file then '/' :: path.dropWhile (· == '/') else path

/-- The path of an address with a host. On the web it is never empty. -/
def readPath (family : Family) : List Char → List Char
  | [] => if family = .other then [] else ['/']
  | c :: cs =>
    let text := if isSlash family c then cs else c :: cs
    pathOf family (resolve [] (segments family text))

/-- Holds if the first segment of a file's path is a drive letter: such a file has no host. -/
def startsWithDrive (family : Family) : List Char → Bool
  | [] => false
  | c :: cs =>
    let text := if isSlash family c then cs else c :: cs
    (resolve [] (segments family text)).head?.any isDriveLetter

/-! ### Addresses -/

/-- Holds of the characters that end a path. -/
def endsPath (c : Char) : Bool := c == '?' || c == '#'

/-- What follows a question mark, up to a number sign. -/
def queryOf : List Char → Option (List Char)
  | '?' :: cs => some (cs.takeWhile (· != '#'))
  | _ => none

/-- What follows a number sign. -/
def fragmentOf (cs : List Char) : Option (List Char) := (cs.dropWhile (· != '#')).tail?

/-- Adds path, query and fragment to an address up to its authority. -/
def withRest (url : Url) (family : Family) (rest : List Char) : Url :=
  let tail := rest.dropWhile (!endsPath ·)
  { url with
    path := readPath family (rest.takeWhile (!endsPath ·))
    query := queryOf tail
    fragment := fragmentOf tail }

/-- Reads what follows the two slashes of a file's address. A drive letter is no host, `localhost`
counts as none, and a file on a drive has none. -/
def parseFile (cs : List Char) : Except Fault Url := do
  let text := cs.takeWhile (!endsAuthority .file ·)
  let rest := cs.dropWhile (!endsAuthority .file ·)
  let url : Url := { scheme := "file" }
  if text.isEmpty || isDriveLetter text then return url.withRest .file cs
  let host ← Host.parse text
  if host = "localhost".toList || startsWithDrive .file (rest.takeWhile (!endsPath ·)) then
    return url.withRest .file rest
  return { url with host := some host }.withRest .file rest

/-- Reads what follows the colon of a scheme. -/
def parseAfterScheme (scheme : String) (cs : List Char) : Except Fault Url := do
  match Family.ofScheme scheme, cs with
  | .web, _ =>
    let (userinfo, host, rest) ← takeAuthority .web (cs.dropWhile (isSlash .web))
    return { scheme, userinfo, host : Url }.withRest .web rest
  | .file, c :: d :: rest =>
    if isSlash .file c && isSlash .file d then parseFile rest
    else return { scheme : Url }.withRest .file cs
  | .file, _ => return { scheme : Url }.withRest .file cs
  | .other, '/' :: '/' :: rest =>
    let (userinfo, host, rest) ← takeAuthority .other rest
    return { scheme, userinfo, host : Url }.withRest .other rest
  | .other, _ =>
    let tail := cs.dropWhile (!endsPath ·)
    return {
      scheme
      path := cs.takeWhile (!endsPath ·)
      query := queryOf tail
      fragment := fragmentOf tail }

/-- The parts of an address. -/
def parse (s : String) : Except Fault Url := do
  let (scheme, rest) ← takeScheme (clean s.toList)
  parseAfterScheme scheme rest

end Url

end FleetConfig
