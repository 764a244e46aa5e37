import Rebac.Host.Ip
import Rebac.Host.Label
import Rebac.Text.Quoted

set_option autoImplicit false

/-!
# Addresses

The address of a server and of a resource on it. An endpoint is the part of an address behind the
scheme: a host with an optional port, possibly with user information in front and a path behind.
Reading an address brings it into a normal form: the host in lower case, no port where it is the
usual one of the scheme, no dot segments in the path, and escapes for the characters that may not
stand for themselves. A host outside ASCII is written in ASCII.
-/

namespace Rebac

/-- Why a text is no address. -/
inductive AddressFault
  | tooLong
  | control (c : Char) (position : Nat)
  | port (text : String)
  | ipv4 (host : String)
  | ipv6 (host : String)
  | hostName (host : String)
  | partTooLong (part : String)
deriving DecidableEq

/-- The message of a fault. -/
def AddressFault.message : AddressFault → String
  | .tooLong => "URL too long"
  | .control c position =>
      "Invalid non-printable ASCII character in URL, " ++ Text.quote (String.singleton c) ++
        " at position " ++ toString position ++ "."
  | .port p => "Invalid port: " ++ Text.quote p
  | .ipv4 h => "Invalid IPv4 address: " ++ Text.quote h
  | .ipv6 h => "Invalid IPv6 address: " ++ Text.quote h
  | .hostName h => "Invalid IDNA hostname: " ++ Text.quote h
  | .partTooLong p => "URL component '" ++ p ++ "' too long"

/-- An address in normal form. -/
structure Address where
  scheme : String
  userinfo : List Char := []
  host : List Char
  port : Option Int
  path : List Char
  query : Option (List Char) := none
  fragment : Option (List Char) := none
deriving DecidableEq

namespace Address

/-- The greatest length of an address and of its parts. -/
def maxLength : Nat := 65536

/-- Characters that stand for themselves in a path. -/
def pathSafe (c : Char) : Bool :=
  0x21 ≤ c.toNat && c.toNat < 0x7F &&
    !(['\x22', '#', '<', '>', '?', '\x60', '\x7b', '\x7d'].contains c)

/-- Characters that stand for themselves in a query. -/
def querySafe (c : Char) : Bool :=
  0x21 ≤ c.toNat && c.toNat < 0x7F && !(['\x22', '#', '<', '>'].contains c)

/-- Characters that stand for themselves in a fragment. -/
def fragmentSafe (c : Char) : Bool :=
  0x21 ≤ c.toNat && c.toNat < 0x7F && !(['\x22', '<', '>', '\x60'].contains c)

/-- Characters that stand for themselves in user information. -/
def userinfoSafe (c : Char) : Bool :=
  pathSafe c && !(['/', ';', '=', '@', '[', '\\', ']', '^', '|'].contains c)

/-- Characters that stand for themselves in the name of a host. -/
def hostSafe (c : Char) : Bool :=
  Text.Percent.isUnreserved c ||
    ['!', '$', '&', '\x27', '(', ')', '*', '+', ',', ';', '=', '\x22', '\x60', '\x7b', '\x7d', '%',
      '|', '\\'].contains c

/-- Whether a character is a digit in base 16. -/
def isHex (c : Char) : Bool := (Text.Percent.hexValue? c).isSome

/-- Escapes the characters that may not stand for themselves, and leaves escapes as they are. -/
def escape (safe : Char → Bool) : List Char → List Char
  | [] => []
  | '%' :: a :: b :: rest =>
      -- A percent sign that begins an escape is part of it, and any other is escaped itself.
      if isHex a && isHex b then '%' :: a :: b :: escape safe rest
      else
        (if safe '%' then ['%'] else (Text.Utf8.encode ['%']).flatMap Text.Percent.escapeByte) ++
          escape safe (a :: b :: rest)
  | c :: rest =>
      (if safe c then [c] else (Text.Utf8.encode [c]).flatMap Text.Percent.escapeByte) ++
        escape safe rest

/-- The segments of a path. -/
def segments (path : List Char) : List (List Char) := Text.pieces (· == '/') path

/-- The path of segments. -/
def joinSegments (segs : List (List Char)) : List Char := ['/'].intercalate segs

/-- Takes one segment of a path onto those before it, last one first: a single dot is dropped, two
dots drop the segment before, too, unless that is the root. -/
def pushSegment (done : List (List Char)) (s : List Char) : List (List Char) :=
  if s = ['.'] then done
  -- There is nothing above the root, so two dots there lead nowhere else.
  else if s = ['.', '.'] then (if done = [[]] then done else done.drop 1)
  else s :: done

/-- A path without dot segments. -/
def removeDots (path : List Char) : List Char :=
  let segs := segments path
  if segs.contains ['.'] || segs.contains ['.', '.'] then
    joinSegments (segs.foldl pushSegment []).reverse
  else path

/-- A host in normal form. -/
def readHost (host : List Char) : Except AddressFault (List Char) :=
  if host.isEmpty then pure []
  else if Host.isIpv4Shaped host then
    if Host.isIpv4 host then pure host else throw (.ipv4 (String.ofList host))
  else if host.head? == some '[' && host.getLast? == some ']' then
    let inner := (host.drop 1).dropLast
    if Host.isIpv6 inner then pure inner else throw (.ipv6 (String.ofList host))
  else if host.all (fun c => c.toNat < 0x80) then pure (escape hostSafe (host.map Char.toLower))
  else
    match Host.encodeName? host with
    | some name => pure name
    | none => throw (.hostName (String.ofList host))

/-- The usual port of a scheme. -/
def usualPort (scheme : String) : Option Int :=
  if scheme == "http" then some 80 else if scheme == "https" then some 443 else none

/-- A port in normal form: none where it is the usual one. -/
def readPort (scheme : String) (port : List Char) : Except AddressFault (Option Int) :=
  if port.isEmpty then pure none
  else
    match Numeral.integer? port with
    | some n => pure (if some n = usualPort scheme then none else some n)
    | none => throw (.port (String.ofList port))

/-- The user information in front of the last at sign of an authority, and the rest. -/
def splitUserinfo (authority : List Char) : List Char × List Char :=
  if authority.contains '@' then
    let host := (authority.reverse.takeWhile (· != '@')).reverse
    (authority.take (authority.length - host.length - 1), host)
  else ([], authority)

/-- The host of an authority without user information, and its port. -/
def splitHost (s : List Char) : List Char × List Char :=
  let host :=
    -- Colons between brackets belong to the host, not to the port.
    if s.head? == some '[' && s.contains ']' then
      s.take (s.length - (s.reverse.takeWhile (· != ']')).length)
    else s.takeWhile (fun c => c != ':' && c != '@')
  let rest := s.drop host.length
  (host, if rest.head? == some ':' then rest.drop 1 else rest)

/-- The part of a text up to a character, and what follows that character, if it occurs. -/
def cut (c : Char) (s : List Char) : List Char × Option (List Char) :=
  let first := s.takeWhile (· != c)
  (first, if first.length < s.length then some (s.drop (first.length + 1)) else none)

/-- Reads the address with the given scheme and endpoint. -/
def read (scheme : String) (endpoint : List Char) : Except AddressFault Address :=
  let whole := scheme.toList ++ ':' :: '/' :: '/' :: endpoint
  if maxLength < whole.length then throw .tooLong
  else
    match whole.find? (fun c => c.toNat < 0x20 || c.toNat == 0x7F) with
    | some c => throw (.control c (whole.takeWhile (· != c)).length)
    | none => do
        let (rest, fragment) := cut '#' endpoint
        let (rest, query) := cut '?' rest
        -- What is left is the authority and, from its first slash on, the path.
        let authority := rest.takeWhile (· != '/')
        let (userinfo, rest') := splitUserinfo authority
        let (host, port) := splitHost rest'
        return {
          scheme := scheme
          userinfo := escape userinfoSafe userinfo
          host := ← readHost host
          port := ← readPort scheme port
          path := escape pathSafe (removeDots (rest.drop authority.length))
          query := query.map (escape querySafe)
          fragment := fragment.map (escape fragmentSafe) }

/-- The path of an address with its query. -/
def target (a : Address) : List Char :=
  (if a.path.isEmpty then ['/'] else a.path) ++ (match a.query with
    | some q => '?' :: q
    | none => [])

/-- The host as it stands in an address. -/
def shownHost (a : Address) : List Char :=
  if a.host.contains ':' then '[' :: a.host ++ [']'] else a.host

/-- The host and the port as they stand in an address. -/
def authority (a : Address) : List Char :=
  a.shownHost ++ (match a.port with
    | some p => ':' :: (toString p).toList
    | none => [])

/-- The address with another path and query. The host is read once more, which brings the escapes in
it into lower case. -/
def withTarget (a : Address) (target : List Char) : Except AddressFault Address := do
  let (path, query) := cut '?' target
  if maxLength < a.userinfo.length + 1 + a.authority.length then throw (.partTooLong "authority")
  else if maxLength < path.length then throw (.partTooLong "path")
  else if maxLength < (query.getD []).length then throw (.partTooLong "query")
  else
    return { a with
      host := ← readHost a.shownHost
      path := escape pathSafe (removeDots path)
      query := query.map (escape querySafe) }

/-- The address of a server as a place to append paths to: what it asks for ends with a slash. -/
def asBase (a : Address) : Except AddressFault Address :=
  if a.target.getLast? == some '/' then pure a else a.withTarget (a.target ++ ['/'])

/-- The address of a resource: its path is appended to that of the server. -/
def resolve (base : Address) (path : String) : Except AddressFault Address :=
  if maxLength < path.length then throw .tooLong
  else base.withTarget (base.target ++ path.toList.dropWhile (· == '/'))

/-- The user and the password in an address, if there is either. -/
def credentials? (a : Address) : Option (List Char × List Char) :=
  let (user, password) := cut ':' a.userinfo
  let decoded := (Text.Percent.decodeLossy user, Text.Percent.decodeLossy (password.getD []))
  if decoded.1.isEmpty && decoded.2.isEmpty then none else some decoded

/-- The text of an address, without user information and without a fragment. -/
def text (a : Address) : String :=
  String.ofList (a.scheme.toList ++ ':' :: '/' :: '/' :: a.authority ++ a.path ++
    (match a.query with | some q => '?' :: q | none => []))

end Address

end Rebac
