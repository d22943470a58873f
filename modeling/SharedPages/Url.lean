import SharedPages.Address
import SharedPages.Domain

/-! # URLs

The parts of a URL: scheme, user, password, host, port, path and query.  Blanks at both ends and
line breaks anywhere are ignored, and so is the fragment.  A *web scheme* such as `http` needs a
host and has a port of its own.  The scheme `file` has a host only after two slashes, and no user or
port; its path may start with the letter of a drive.  Both kinds take a backslash for a slash, and
their hosts are domain names or addresses. -/

namespace SharedPages

/-- The parts of a URL, percent-encoded. -/
structure Url where
  scheme : String
  username : String := ""
  password : String := ""
  host : Option String := none
  /-- Absent if it is the scheme's own. -/
  port : Option Nat := none
  path : String := ""
  query : String := ""
deriving DecidableEq

namespace Url

/-- Why a text is no URL. -/
inductive Fault where
  | relative
  | emptyHost
  | port
  | ipv4
  | ipv6
  | domain
  | hostCharacter
deriving DecidableEq

/-- The text that reports a fault. -/
def Fault.message : Fault → String
  | .relative => "relative URL without a base"
  | .emptyHost => "empty host"
  | .port => "invalid port number"
  | .ipv4 => "invalid IPv4 address"
  | .ipv6 => "invalid IPv6 address"
  | .domain => "invalid international domain name"
  | .hostCharacter => "invalid domain character"

/-- The ports of the web schemes. -/
def webPorts : List (String × Nat) :=
  [("http", 80), ("https", 443), ("ws", 80), ("wss", 443), ("ftp", 21)]

/-- Kinds of schemes. -/
inductive Kind where
  | web | file | other
deriving DecidableEq

/-- The kind of a scheme. -/
def Kind.ofScheme (scheme : String) : Kind :=
  if (webPorts.lookup scheme).isSome then web else if scheme = "file" then file else other

/-- The character parts the segments of a path. -/
def Kind.isSlash (kind : Kind) (c : Char) : Bool := c == '/' || kind != other && c == '\\'

/-- The character is an ASCII letter or digit, or one of `others`. -/
def isNameChar (others : List Char) (c : Char) : Bool := c.isAlphanum || others.contains c

/-- Splits the scheme off, in lowercase. -/
def splitScheme? (cs : List Char) : Option (String × List Char) :=
  let name := cs.takeWhile (isNameChar ['+', '-', '.'])
  match name, cs.dropWhile (isNameChar ['+', '-', '.']) with
  | c :: _, ':' :: rest =>
    if c.isAlpha then some (String.ofList (name.map Char.toLower), rest) else none
  | _, _ => none

/-- The character ends the authority, which holds user, password, host and port. -/
def endsAuthority (kind : Kind) (c : Char) : Bool := kind.isSlash c || c == '?' || c == '#'

/-- What stands before and after the last `@`, if there is one. -/
def splitUserinfo? (cs : List Char) : Option (List Char × List Char) :=
  if cs.contains '@' then
    let host := (cs.reverse.takeWhile (· ≠ '@')).reverse
    some (cs.take (cs.length - host.length - 1), host)
  else none

/-- The host at the start of `cs`: all before a colon that stands outside square brackets. -/
def takeHost (bracketed : Bool) : List Char → List Char
  | [] => []
  | c :: rest =>
    if c = ':' ∧ !bracketed then []
    else c :: takeHost (c = '[' ∨ c ≠ ']' ∧ bracketed) rest

/-- The characters that a host cannot have. -/
def forbiddenInHost : List Char :=
  [' ', '#', '/', ':', '<', '>', '?', '@', '[', '\\', ']', '^', '|', Char.ofNat 0]

/-- Reads a domain name, which may be an address of version 4. -/
def readDomain (cs : List Char) : Except Fault String :=
  let name? := (Percent.decode (String.ofList cs)).toOption
  match name?.bind fun name => Domain.toAscii? name.toList with
  | none => .error .domain
  | some [] => .error .emptyHost
  | some name =>
    if Address.endsInNumber name then
      match Address.looseOctets? name with
      | some octets => .ok (Address.octetsText octets)
      | none => .error .ipv4
    else .ok (String.ofList name)

/-- Reads a host: an address of version 6 between brackets, or a name. -/
def readHost (kind : Kind) (cs : List Char) : Except Fault String :=
  if cs.head? = some '[' then
    if cs.getLast? = some ']' then
      match Address.groups? (cs.drop 1).dropLast with
      | some groups => .ok (String.ofList ('[' :: Address.groupsText groups ++ [']']))
      | none => .error .ipv6
    else .error .ipv6
  else if kind ≠ .other then readDomain cs
  else if cs.any (forbiddenInHost.contains ·) then .error .hostCharacter
  else .ok (String.ofList (Percent.encodeControls cs))

/-- Reads a port, whose digits may be missing. -/
def readPort (cs : List Char) : Except Fault (Option Nat) :=
  if cs.isEmpty then .ok none
  else match Numeral.readDigits 0xffff cs with
    | .ok port => .ok (some port)
    | .error _ => .error .port

/-- The segment means the place where it stands. -/
def isDot (segment : List Char) : Bool :=
  [".", "%2e"].contains (String.ofList (segment.map Char.toLower))

/-- The segment means the place above the one where it stands. -/
def isDoubleDot (segment : List Char) : Bool :=
  ["..", "%2e%2e", "%2e.", ".%2e"].contains (String.ofList (segment.map Char.toLower))

/-- The segment is the letter of a drive. -/
def isDrive : (segment : List Char) → Bool
  | [c, mark] => c.isAlpha && (mark == ':' || mark == '|')
  | _ => false

/-- The place above the one walked to, nearest first.  There is none above a drive. -/
def above : (walked : List (List Char)) → List (List Char)
  | [] => []
  | segment :: rest => if isDrive segment then segment :: rest else rest

/-- The segment as it stands after `walked`: the drive that the path of a file starts with has a
    colon. -/
def placed (kind : Kind) (walked : List (List Char)) (segment : List Char) : List Char :=
  if kind = .file ∧ walked.isEmpty ∧ isDrive segment then segment.take 1 ++ [':'] else segment

/-- Walks along the segments of a path from the place `walked`, nearest first. -/
def resolve (kind : Kind) (walked : List (List Char)) :
    (segments : List (List Char)) → List (List Char)
  | [] => walked.reverse
  | segment :: rest =>
    let here := if isDoubleDot segment then above walked
      else if isDot segment then walked else placed kind walked segment :: walked
    if rest.isEmpty ∧ (isDot segment ∨ isDoubleDot segment) then ([] :: here).reverse
    else resolve kind here rest

/-- The segments of the path that `cs` starts with; its dots are resolved. -/
def readSegments (kind : Kind) (cs : List Char) : List (List Char) :=
  let cs := cs.map fun c => if kind.isSlash c then '/' else c
  let cs := if cs.head? = some '/' then cs.drop 1 else cs
  resolve kind [] (Text.splitOn '/' cs)

/-- A path of these segments. -/
def pathOf (segments : List (List Char)) : String :=
  String.ofList (segments.flatMap ('/' :: ·))

/-- Splits path, query and fragment, and drops the fragment. -/
def splitQuery (cs : List Char) : List Char × List Char :=
  let cs := cs.takeWhile (· ≠ '#')
  (cs.takeWhile (· ≠ '?'), (cs.dropWhile (· ≠ '?')).drop 1)

/-- Reads what follows the two slashes after the scheme. -/
def readAuthority (scheme : String) (cs : List Char) : Except Fault Url := do
  let kind := Kind.ofScheme scheme
  let authority := cs.takeWhile (!endsAuthority kind ·)
  let rest := cs.dropWhile (!endsAuthority kind ·)
  let (userinfo, afterUser) := (splitUserinfo? authority).getD ([], authority)
  if authority.head? = some '@' ∧ afterUser.isEmpty ∧ !rest.isEmpty then throw .emptyHost
  let username := userinfo.takeWhile (· ≠ ':')
  let password := (userinfo.dropWhile (· ≠ ':')).drop 1
  let written := takeHost false afterUser
  let afterHost := afterUser.drop written.length
  if written.isEmpty ∧ kind = .web then throw .emptyHost
  let host ← readHost kind written
  if written.isEmpty ∧ !afterHost.isEmpty then throw .emptyHost
  -- A backslash ends a port under any scheme and starts the path.
  let digits := (afterHost.drop 1).takeWhile (· ≠ '\\')
  let port ← readPort digits
  if written.isEmpty ∧ !(username.isEmpty && password.isEmpty) then throw .emptyHost
  let (path, query) := splitQuery (afterHost.drop (digits.length + 1) ++ rest)
  return {
    scheme
    username := String.ofList username
    password := String.ofList password
    host := if written.isEmpty then none else some host
    port := if port = webPorts.lookup scheme then none else port
    path := if path.isEmpty ∧ kind ≠ .web then "" else pathOf (readSegments kind path)
    query := String.ofList query }

/-- Splits the host off what follows the scheme `file`.  It stands after two slashes; a drive in its
    place is no host. -/
def splitFileHost (cs : List Char) : List Char × List Char :=
  match cs with
  | a :: b :: rest =>
    let host := rest.takeWhile (!endsAuthority .file ·)
    if !(Kind.file.isSlash a && Kind.file.isSlash b) then ([], cs)
    else if isDrive host then ([], rest)
    else (host, rest.drop host.length)
  | _ => ([], cs)

/-- Reads what follows the scheme `file`.  The host `localhost` says nothing, and neither does a
    host before a drive. -/
def readFile (scheme : String) (cs : List Char) : Except Fault Url := do
  let (host, rest) := splitFileHost cs
  let name ← if host.isEmpty then .ok none else (readHost .file host).map some
  let (path, query) := splitQuery rest
  let segments := readSegments .file path
  return {
    scheme
    host := if segments.head?.any isDrive then none else name.filter (· ≠ "localhost")
    path := pathOf (segments.dropWhile List.isEmpty)
    query := String.ofList query }

/-- Drops blanks and controls from both ends and line breaks and tabs from everywhere. -/
def trim (cs : List Char) : List Char :=
  let isBlank (c : Char) : Bool := c.toNat ≤ 0x20
  let cs := ((cs.dropWhile isBlank).reverse.dropWhile isBlank).reverse
  cs.filter fun c => !(['\t', '\n', '\r'].contains c)

/-- Reads a URL. -/
def parse (s : String) : Except Fault Url :=
  match splitScheme? (trim s.toList) with
  | none => .error .relative
  | some (scheme, rest) =>
    match Kind.ofScheme scheme, rest with
    | .web, _ => readAuthority scheme (rest.dropWhile Kind.web.isSlash)
    | .file, _ => readFile scheme rest
    | .other, '/' :: '/' :: rest => readAuthority scheme rest
    | .other, _ =>
      let (path, query) := splitQuery rest
      let path :=
        if path.head? = some '/' then pathOf (readSegments .other path) else String.ofList path
      .ok { scheme, path, query := String.ofList query }

end Url

end SharedPages
