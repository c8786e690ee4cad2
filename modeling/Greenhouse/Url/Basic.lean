import Greenhouse.Url.Address
import Greenhouse.Url.Domain
import Greenhouse.Url.Percent

/-!
# Addresses

A `Url` is an address by the URL standard.  `Url.parse` reads one and brings it into its
normal form: lower case scheme and host, no default port, a path without dots, and all else
percent-encoded.  The parts can then be exchanged one by one.  Schemes are special when they
name a host on the network or a file; others have a path that need not be a hierarchy.
-/

namespace Greenhouse

/-- An address. -/
structure Url where
  scheme : String
  username : String
  password : String
  /-- The host as it is written; none when the address names none. -/
  host : Option String
  /-- The port, when it is not the default one of the scheme. -/
  port : Option Nat
  path : String
  query : Option String
  fragment : Option String
deriving DecidableEq

namespace Url

/-- Why a text is no address. -/
inductive Error where
  | emptyHost
  | invalidDomain
  | invalidPort
  | invalidIpv4
  | invalidIpv6
  | invalidCharacter
  | noBase
deriving DecidableEq

/-- The text of the reason. -/
def Error.message : Error → String
  | .emptyHost => "empty host"
  | .invalidDomain => "invalid international domain name"
  | .invalidPort => "invalid port number"
  | .invalidIpv4 => "invalid IPv4 address"
  | .invalidIpv6 => "invalid IPv6 address"
  | .invalidCharacter => "invalid domain character"
  | .noBase => "relative URL without a base"

/-! ### Schemes -/

/-- The schemes that name a host on the network. -/
def networkSchemes : List String := ["http", "https", "ws", "wss", "ftp"]

/-- Whether a scheme names a host or a file. -/
def isSpecial (scheme : String) : Bool := networkSchemes.contains scheme || scheme == "file"

/-- The default port of a scheme. -/
def defaultPort? (scheme : String) : Option Nat :=
  if scheme = "http" ∨ scheme = "ws" then some 80
  else if scheme = "https" ∨ scheme = "wss" then some 443
  else if scheme = "ftp" then some 21
  else none

/-- The scheme at the start of a text, and the text after its colon. -/
def scheme? (cs : List Char) : Option (String × List Char) :=
  let name := cs.takeWhile fun c => Text.isLetter c || Text.isDigit c || "+-.".toList.contains c
  match cs, cs.drop name.length with
  | first :: _, ':' :: rest =>
    if Text.isLetter first then some (String.ofList (name.map Text.lowerAscii), rest) else none
  | _, _ => none

/-! ### Hosts -/

/-- The host of a special address. -/
def specialHost (cs : List Char) : Except Error String :=
  match cs with
  | '[' :: rest =>
    if rest.getLast? = some ']' then
      match Address.ipv6? rest.dropLast with
      | some ps => .ok ("[" ++ Address.ipv6Text ps ++ "]")
      | none => .error .invalidIpv6
    else .error .invalidIpv6
  | _ =>
    match Domain.ascii? (Utf8.decodeLossy (Percent.decode (Utf8.encode cs))) with
    | none => .error .invalidDomain
    | some [] => .error .emptyHost
    | some name =>
      if Address.endsInNumber name then
        match Address.ipv4? name with
        | some n => .ok (Address.ipv4Text n)
        | none => .error .invalidIpv4
      else .ok (String.ofList name)

/-- The characters that may not stand in the host of an address that is not special. -/
def isForbiddenInHost (c : Char) : Bool := "\x00\t\n\r #/:<>?@[\\]^|".toList.contains c

/-- The host of an address that is not special. -/
def opaqueHost (cs : List Char) : Except Error String :=
  match cs with
  | '[' :: _ => specialHost cs
  | _ =>
    if cs.any isForbiddenInHost then .error .invalidCharacter
    else .ok (String.ofList (Percent.encode Percent.control cs))

/-- The host of an address. -/
def hostOf (special : Bool) (cs : List Char) : Except Error String :=
  if special then specialHost cs else opaqueHost cs

/-- Cuts a host off the start of a text: a colon ends it only outside of brackets. -/
def splitHost (special : Bool) : Bool → List Char → List Char × List Char
  | _, [] => ([], [])
  | inside, c :: rest =>
    if (c = ':' ∧ !inside) ∨ (c = '\\' ∧ special) ∨ c = '/' ∨ c = '?' ∨ c = '#' then ([], c :: rest)
    else
      let inside := if c = '[' then true else if c = ']' then false else inside
      let (host, rest) := splitHost special inside rest
      (c :: host, rest)

/-! ### Authorities -/

/-- Whether a character ends the authority of an address. -/
def endsAuthority (special : Bool) (c : Char) : Bool :=
  c == '/' || c == '?' || c == '#' || (special && c == '\\')

/-- The user name and the password of an address, and the text after them.  They end at the
last `@` before the path. -/
def userinfo (special : Bool) (cs : List Char) : Except Error (String × String × List Char) :=
  let authority := cs.takeWhile fun c => !endsAuthority special c
  if authority.contains '@' then
    let host := (authority.reverse.takeWhile (· ≠ '@')).reverse
    let info := authority.take (authority.length - host.length - 1)
    let rest := cs.drop (info.length + 1)
    let username := info.takeWhile (· ≠ ':')
    let password := info.drop (username.length + 1)
    if info.isEmpty ∧ rest.head?.any (endsAuthority special) then .error .emptyHost
    else
      .ok (String.ofList (Percent.encode Percent.userinfo username),
        String.ofList (Percent.encode Percent.userinfo password), rest)
  else .ok ("", "", cs)

/-- Reads a port, from behind its colon. -/
def readPort (scheme : String) (cs : List Char) : Except Error (Option Nat × List Char) :=
  let digits := cs.takeWhile Text.isDigit
  let rest := cs.dropWhile Text.isDigit
  let n := Text.decimal digits
  if 65535 < n then .error .invalidPort
  else
    let ended := rest.head?.all fun c => c == '/' || c == '\\' || c == '?' || c == '#'
    if !ended then .error .invalidPort
    else if digits.isEmpty ∨ defaultPort? scheme = some n then .ok (none, rest)
    else .ok (some n, rest)

/-- The port of an address, from behind its host: none where no colon stands there. -/
def portOf (scheme : String) : List Char → Except Error (Option Nat × List Char)
  | ':' :: rest => readPort scheme rest
  | cs => .ok (none, cs)

/-! ### Paths -/

/-- The segments of a path as they are written, from its first slash on. -/
def segments (special : Bool) : List Char → List (List Char)
  | [] => [[]]
  | c :: rest =>
    if c = '/' ∨ (c = '\\' ∧ special) then [] :: segments special rest
    else
      match segments special rest with
      | [] => [Percent.encodeChar Percent.path c]
      | first :: others => (Percent.encodeChar Percent.path c ++ first) :: others

/-- Whether a segment means the same place. -/
def isDot (s : List Char) : Bool := [".", "%2e"].contains (String.ofList (s.map Text.lowerAscii))

/-- Whether a segment means the place above. -/
def isDoubleDot (s : List Char) : Bool :=
  ["..", ".%2e", "%2e.", "%2e%2e"].contains (String.ofList (s.map Text.lowerAscii))

/-- Whether a segment names a drive: a letter and a colon or a bar. -/
def isDrive : List Char → Bool
  | [letter, mark] => Text.isLetter letter && (mark == ':' || mark == '|')
  | letter :: mark :: '\\' :: _ => Text.isLetter letter && (mark == ':' || mark == '|')
  | _ => false

/-- The segments above the place that segments lead to; nothing is above a drive. -/
def above : List (List Char) → List (List Char)
  | [] => []
  | s :: rest => if isDrive s then s :: rest else rest

/-- Walks along segments, last one first in what is given; a dot at the end leaves an empty
segment. -/
def walk (done : List (List Char)) : List (List Char) → List (List Char)
  | [] => done
  | s :: rest =>
    let last := rest.isEmpty
    if isDoubleDot s then
      let up := above done
      walk (if last then [] :: up else up) rest
    else if isDot s then walk (if last then [] :: done else done) rest
    else walk (s :: done) rest

/-- A path in normal form, from behind its first slash. -/
def normalPath (special : Bool) (cs : List Char) : String :=
  let ss := (walk [] (segments special cs)).reverse
  "/" ++ String.intercalate "/" (ss.map String.ofList)

/-- A path in normal form; a special address always has one. -/
def pathOf (special : Bool) (cs : List Char) : String :=
  match cs with
  | [] => if special then "/" else ""
  | c :: rest => if c = '/' ∨ (c = '\\' ∧ special) then normalPath special rest
    else normalPath special cs

/-! ### Whole addresses -/

/-- Reads a query and a fragment, from their first mark on. -/
def tail (special : Bool) (cs : List Char) : Option String × Option String :=
  let fragment (cs : List Char) := String.ofList (Percent.encode Percent.fragment cs)
  match cs with
  | '?' :: rest =>
    let query := rest.takeWhile (· ≠ '#')
    let after := rest.dropWhile (· ≠ '#')
    (some (String.ofList (Percent.encode (Percent.query special) query)),
      match after with
      | '#' :: rest => some (fragment rest)
      | _ => none)
  | '#' :: rest => (none, some (fragment rest))
  | _ => (none, none)

/-- Cuts off what follows the path. -/
def splitTail (cs : List Char) : List Char × List Char :=
  (cs.takeWhile fun c => c != '?' && c != '#', cs.dropWhile fun c => c != '?' && c != '#')

/-- Reads an address from behind the two slashes of its authority. -/
def afterSlashes (scheme : String) (cs : List Char) : Except Error Url := do
  let special := isSpecial scheme
  let (username, password, cs) ← userinfo special cs
  let (hostText, cs) := splitHost special false cs
  let network := networkSchemes.contains scheme
  if network && hostText.isEmpty then .error .emptyHost
  else
    let host ← hostOf special hostText
    if host.isEmpty && (cs.head? == some ':') then .error .emptyHost
    else
      let (port, cs) ← portOf scheme cs
      if host.isEmpty && (username != "" || password != "") then .error .emptyHost
      else
        let (path, rest) := splitTail cs
        let (query, fragment) := tail special rest
        return { scheme, username, password, host := some host, port
                 path := pathOf special path, query, fragment }

/-- Reads the address of a file, from behind its scheme. -/
def afterFile (cs : List Char) : Except Error Url := do
  let slash (c : Char) : Bool := c == '/' || c == '\\'
  let (path, rest) := splitTail cs
  let (query, fragment) := tail true rest
  let file (host path : String) : Url :=
    { scheme := "file", username := "", password := "", host := some host, port := none
      path, query, fragment }
  match path with
  | a :: b :: rest =>
    if slash a && slash b then
      let name := rest.takeWhile fun c => !slash c
      if name.isEmpty || isDrive name then return file "" (pathOf true rest)
      else
        let host ← specialHost name
        return file (if host = "localhost" then "" else host) (pathOf true (rest.drop name.length))
    else return file "" (pathOf true path)
  | _ => return file "" (pathOf true path)

/-- Reads an address from behind its scheme. -/
def afterScheme (scheme : String) (cs : List Char) : Except Error Url :=
  if scheme = "file" then afterFile cs
  else if isSpecial scheme then
    afterSlashes scheme (cs.dropWhile fun c => c == '/' || c == '\\')
  else
    match cs with
    | '/' :: '/' :: rest => afterSlashes scheme rest
    | _ =>
      let (path, rest) := splitTail cs
      let (query, fragment) := tail false rest
      let path :=
        match path with
        | '/' :: rest => normalPath false rest
        | path => String.ofList (Percent.encode Percent.control path)
      .ok { scheme, username := "", password := "", host := none, port := none
            path, query, fragment }

/-- Whether a character is left out wherever it stands. -/
def isBreak (c : Char) : Bool := c == '\t' || c == '\n' || c == '\r'

/-- Whether a character is cut off at the ends of an address. -/
def isOuter (c : Char) : Bool := c.toNat ≤ 0x20

/-- Reads an address.  Controls and spaces at its ends do not count, and neither do line
breaks and tabs within. -/
def parse (text : String) : Except Error Url :=
  let trimmed := ((text.toList.dropWhile isOuter).reverse.dropWhile isOuter).reverse
  match scheme? (trimmed.filter fun c => !isBreak c) with
  | some (scheme, rest) => afterScheme scheme rest
  | none => .error .noBase

/-! ### Exchanging parts -/

/-- Whether the scheme may be exchanged for another one: a special scheme only for a special one,
one that is special only where a host is named, and that of a file only where there is no place for
a host. -/
def admitsScheme (u : Url) (scheme : String) : Bool :=
  isSpecial scheme == isSpecial u.scheme
    && (u.host.any (fun host => !host.isEmpty) || !isSpecial scheme)
    && !(u.host.isSome && scheme == "file")

/-- The address with another scheme, whose default port is left out. -/
def withScheme (u : Url) (scheme : String) : Url :=
  { u with scheme, port := u.port.filter fun n => defaultPort? scheme != some n }

/-- The address with another path.  Marks of a query or a fragment count as part of the
path. -/
def withPath (u : Url) (path : String) : Url :=
  { u with path := pathOf (isSpecial u.scheme) (path.toList.filter fun c => !isBreak c) }

/-- The address without a query. -/
def withoutQuery (u : Url) : Url := { u with query := none }

/-- The address without a user name and a password. -/
def withoutCredentials (u : Url) : Url := { u with username := "", password := "" }

/-- Whether the host may stand in a request: there are marks that only an address may have. -/
def isRequestable (u : Url) : Bool :=
  !(u.host.getD "").toList.any fun c => "\"\x60\x7b\x7d".toList.contains c

/-- The address of a place on the same host, given by its path. -/
def join (u : Url) (path : String) : Url :=
  { u.withPath path with query := none, fragment := none }

/-! ### Writing -/

/-- The user name and the password, before the host. -/
def credentials (u : Url) : String :=
  if u.username.isEmpty && u.password.isEmpty then ""
  else u.username ++ (if u.password.isEmpty then "" else ":" ++ u.password) ++ "@"

/-- A mark and a text, if there is one. -/
def marked (mark : String) : Option String → String
  | some s => mark ++ s
  | none => ""

/-- The text of an address. -/
def toText (u : Url) : String :=
  let authority :=
    match u.host with
    | some host => "//" ++ u.credentials ++ host ++ marked ":" (u.port.map toString)
    | none => ""
  u.scheme ++ ":" ++ authority ++ u.path ++ marked "?" u.query ++ marked "#" u.fragment

end Url

end Greenhouse
