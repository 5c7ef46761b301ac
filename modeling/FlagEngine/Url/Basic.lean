import FlagEngine.Text.Blank
import FlagEngine.Url.Host
import FlagEngine.Url.Path

/-!
# URLs

Reading and writing absolute URLs. The credentials of a user are read and left out.
-/

namespace FlagEngine

/-- The path of a URL: segments from the root, or a text that has no root. -/
inductive Url.Location where
  | rooted (segments : List (List Char))
  | rootless (text : List Char)
deriving DecidableEq, Repr, Inhabited

structure Url where
  scheme : List Char
  /-- The host, perhaps an empty one, if the URL has a place for it. -/
  host : Option Url.Host
  /-- The port, unless it is the usual one of the scheme. -/
  port : Option Nat
  location : Url.Location
  query : Option (List Char)
  fragment : Option (List Char)
deriving DecidableEq, Repr, Inhabited

namespace Url

/-- The usual port of the schemes that have hosts and are known. -/
def usualPort? (scheme : List Char) : Option Nat :=
  match String.ofList scheme with
  | "http" | "ws" => some 80
  | "https" | "wss" => some 443
  | "ftp" => some 21
  | _ => none

def isFile (scheme : List Char) : Bool :=
  String.ofList scheme == "file"

/-- Whether a scheme is known. Its paths have a root, and backslashes separate their segments. -/
def isSpecial (scheme : List Char) : Bool :=
  isFile scheme || (usualPort? scheme).isSome

def isSlash (special : Bool) (c : Char) : Bool :=
  c == '/' || special && c == '\\'

/-- Takes a scheme off: a letter, further letters, digits and `+-.`, and a colon. -/
def scheme? (cs : List Char) : Option (List Char × List Char) :=
  let isNameChar (c : Char) := c.isAlphanum || c == '+' || c == '-' || c == '.'
  match cs.takeWhile isNameChar, cs.dropWhile isNameChar with
  | c :: name, ':' :: rest => if c.isAlpha then some ((c :: name).map Char.toLower, rest) else none
  | _, _ => none

/-- The query of what follows a path. -/
def query? (special : Bool) : List Char → Option (List Char)
  | '?' :: rest => some (encode (isQuerySafe special) (rest.takeWhile (· != '#')))
  | _ => none

/-- The fragment of what follows a path. -/
def fragment? (cs : List Char) : Option (List Char) :=
  match cs.dropWhile (· != '#') with
  | _ :: rest => some (encode isFragmentSafe rest)
  | [] => none

def isPathEnd (c : Char) : Bool :=
  c == '?' || c == '#'

/-- The segments of a path that is given from its root on. -/
def segments (special : Bool) (cs : List Char) : List (List Char) :=
  resolve [] ((splitOn (isSlash special) cs).map (encode isPathSafe))

/-- The location of what follows the host. -/
def rooted (special : Bool) (cs : List Char) : Location :=
  match cs with
  | [] => .rooted (if special then [[]] else [])
  | c :: rest =>
    if isSlash special c then .rooted (segments special rest) else .rooted (segments special (c :: rest))

/-- A URL from the end of its host or port on. -/
def ofRest (scheme : List Char) (host : Option Host) (port : Option Nat) (cs : List Char) : Url :=
  let special := isSpecial scheme
  { scheme
    host
    port
    location := rooted special (cs.takeWhile (!isPathEnd ·))
    query := query? special (cs.dropWhile (!isPathEnd ·))
    fragment := fragment? cs }

/-- The characters up to the first colon that does not stand between brackets. -/
def hostText : Bool → List Char → List Char
  | _, [] => []
  | inside, c :: cs =>
    if c = ':' ∧ !inside then []
    else c :: hostText (if c = '[' then true else if c = ']' then false else inside) cs

/-- The port of what follows a host, and what follows the port. -/
def port? (scheme : List Char) : List Char → Except Fault (Option Nat × List Char)
  | ':' :: cs =>
    let digits := cs.takeWhile Char.isDigit
    let rest := cs.dropWhile Char.isDigit
    let port := (numeral? 10 digits).getD 0
    if 65535 < port ∨ (rest ≠ [] ∧ rest.head? ≠ some '\\') then .error .invalidPort
    else .ok (if digits.isEmpty ∨ some port = usualPort? scheme then none else some port, rest)
  | cs => .ok (none, cs)

/-- A URL from its credentials or its host on. -/
def ofAuthority (scheme cs : List Char) : Except Fault Url :=
  let special := isSpecial scheme
  let isEnd (c : Char) := isSlash special c || isPathEnd c
  let authority := cs.takeWhile (!isEnd ·)
  let rest := cs.dropWhile (!isEnd ·)
  let afterCredentials := (authority.reverse.takeWhile (· != '@')).reverse
  let credentials := ((authority.reverse.dropWhile (· != '@')).drop 1).reverse
  let name := hostText false afterCredentials
  let afterHost := afterCredentials.drop name.length
  if name.isEmpty then
    let isDangling := afterHost.head? = some ':' || (credentials ≠ [] && credentials ≠ [':'])
      || (authority = ['@'] && rest ≠ [])
    if special || isDangling then .error .emptyHost else .ok (ofRest scheme (some .empty) none rest)
  else do
    let host ← if special then Host.ofSpecial name else Host.ofOther name
    let (port, afterPort) ← port? scheme afterHost
    return ofRest scheme (some host) port (afterPort ++ rest)

/-- The letter of a drive, as it may stand in place of a host. -/
def isDrive : List Char → Bool
  | [letter, mark] => letter.isAlpha && (mark == ':' || mark == '|')
  | _ => false

/-- A URL of a file from the end of its scheme on. The host may be missing. -/
def ofFile (scheme cs : List Char) : Except Fault Url :=
  if (cs.take 2).length = 2 ∧ (cs.take 2).all (isSlash true) then
    let isEnd (c : Char) := isSlash true c || isPathEnd c
    let name := (cs.drop 2).takeWhile (!isEnd ·)
    if name.isEmpty || isDrive name then .ok (ofRest scheme (some .empty) none (cs.drop 2))
    else do return ofRest scheme (some (← Host.ofSpecial name)) none ((cs.drop 2).dropWhile (!isEnd ·))
  else .ok (ofRest scheme (some .empty) none cs)

/-- The URL of a text. White space and controls around it count for nothing, and neither do tabs and
line ends inside. -/
def parse (text : String) : Except Fault Url :=
  let isIgnored (c : Char) := c == '\t' || c == '\n' || c == '\r'
  let cs := (Text.trimList (·.toNat ≤ 0x20) text.toList).filter (!isIgnored ·)
  match scheme? cs with
  | none => .error .relative
  | some (scheme, rest) =>
    if isFile scheme then ofFile scheme rest
    else if isSpecial scheme then ofAuthority scheme (rest.dropWhile (isSlash true))
    else
      match rest with
      | '/' :: '/' :: rest => ofAuthority scheme rest
      | '/' :: _ => .ok (ofRest scheme none none rest)
      | _ => .ok {
          scheme
          host := none
          port := none
          location := .rootless (encode isPlain (rest.takeWhile (!isPathEnd ·)))
          query := query? false (rest.dropWhile (!isPathEnd ·))
          fragment := fragment? rest }

/-! ## Writing -/

/-- Whether a path needs a mark in front of it where there is no host, not to be taken for one. -/
def Location.needsMark : Location → Bool
  | .rooted ([] :: _ :: _) => true
  | _ => false

def Location.text : Location → List Char
  | .rooted segments => pathText segments
  | .rootless text => text

/-- What stands between the scheme and the path. -/
def authorityText (url : Url) : List Char :=
  match url.host with
  | some host =>
    '/' :: '/' :: host.text ++ match url.port with
      | some port => ':' :: Nat.toDigits 10 port
      | none => []
  | none => if url.location.needsMark then ['/', '.'] else []

def text (url : Url) : List Char :=
  url.scheme ++ ':' :: url.authorityText ++ url.location.text
    ++ (match url.query with
      | some query => '?' :: query
      | none => [])
    ++ match url.fragment with
      | some fragment => '#' :: fragment
      | none => []

/-- Whether a URL can be given another path: something shows the root when its path is taken away. -/
def takesPath (url : Url) : Bool :=
  !url.authorityText.isEmpty

/-- The longest URL that a request is made for. -/
def requestLimit : Nat := 65534

/-- The schemes of the URLs that requests are made for. -/
def requestSchemes : List String := ["http", "https"]

/-- Whether a request can be made for a URL. -/
def isRequestable (url : Url) : Bool :=
  requestSchemes.contains (String.ofList url.scheme) && url.host.any Host.isWritable
    && url.text.length ≤ requestLimit

end Url

end FlagEngine
