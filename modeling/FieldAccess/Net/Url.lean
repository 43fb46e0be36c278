import FieldAccess.Net.Host

/-!
# Addresses

Addresses on the internet, read the way browsers do. Blanks around an address and line breaks in it
do not count. After a known scheme any number of slashes may stand, and a backslash is a slash.

## Main definitions

* `Url`, `Url.toText` – addresses and their written form.
* `Url.read` – reading of an address.
-/

namespace FieldAccess.Net

open Text

/-- What is known about a scheme. -/
inductive SchemeKind where
  /-- A scheme whose addresses have a host. -/
  | network
  | file
  | other
  deriving Repr, DecidableEq

/-- The ports that schemes use unless another one is given. -/
def defaultPorts : List (String × Nat) :=
  [("http", 80), ("https", 443), ("ws", 80), ("wss", 443), ("ftp", 21)]

/-- What is known about a scheme. -/
def schemeKind (scheme : String) : SchemeKind :=
  if (defaultPorts.lookup scheme).isSome then .network
  else if scheme = "file" then .file
  else .other

/-- The path of an address. -/
inductive UrlPath where
  /-- Parts after slashes. -/
  | hierarchical (segments : List (List Char))
  /-- A text without structure. -/
  | plain (text : List Char)
  deriving Repr, DecidableEq

/-- An address. All parts but the host are kept as they are written, with what has to be encoded
encoded. -/
structure Url where
  scheme : String
  username : List Char := []
  password : List Char := []
  host : Option Host := none
  /-- The port, unless it is the one that the scheme uses anyway. -/
  port : Option Nat := none
  path : UrlPath := .hierarchical []
  query : Option (List Char) := none
  fragment : Option (List Char) := none
  deriving Repr, DecidableEq

namespace Url

/-! ### Encoded characters -/

/-- The characters that are encoded in a fragment. -/
def fragmentMarks : List Char := [' ', '"', '<', '>', '\x60']

/-- The characters that are encoded in a path. -/
def pathMarks : List Char := fragmentMarks ++ ['#', '?', '\x7b', '\x7d']

/-- The characters that are encoded in the name and password of a user. -/
def userMarks : List Char := pathMarks ++ ['/', ':', ';', '=', '@', '[', '\\', ']', '^', '|']

/-- The characters that are encoded in a query. -/
def queryMarks (kind : SchemeKind) : List Char :=
  [' ', '"', '#', '<', '>'] ++ if kind = .other then [] else ['\'']

/-- A text with some characters encoded. -/
def encodeMarks (marks : List Char) (text : List Char) : List Char :=
  percentEncode marks.contains text

/-! ### Paths -/

/-- Whether a segment is a point. -/
def isSingleDot (segment : List Char) : Bool :=
  [".", "%2e"].contains (String.ofList (segment.map Char.toLower))

/-- Whether a segment is a pair of points. -/
def isDoubleDot (segment : List Char) : Bool :=
  ["..", "%2e.", ".%2e", "%2e%2e"].contains (String.ofList (segment.map Char.toLower))

/-- Whether a text is a letter and a colon or bar, which name a drive. -/
def isDrive : List Char → Bool
  | [letter, mark] => isAsciiLetter letter && (mark == ':' || mark == '|')
  | _ => false

/-- The segments, in reverse, without the last one, unless that one names a drive. -/
def leaveLast : List (List Char) → List (List Char)
  | [] => []
  | segment :: before => if isDrive segment then segment :: before else before

/-- The segments of a path, in which points stand for the place where they are. `done` holds, in
reverse, the segments before. -/
def resolveDots (done : List (List Char)) : List (List Char) → List (List Char)
  | [] => done.reverse
  | segment :: rest =>
    let isLast := rest.isEmpty
    if isDoubleDot segment then
      resolveDots (if isLast then [] :: leaveLast done else leaveLast done) rest
    else if isSingleDot segment then resolveDots (if isLast then [] :: done else done) rest
    else resolveDots (segment :: done) rest

/-- Whether a character separates segments. -/
def isSlash (kind : SchemeKind) (c : Char) : Bool := c == '/' || (c == '\\' && kind != .other)

/-- Whether a character ends the part of an address before the query. -/
def endsPath (c : Char) : Bool := c == '?' || c == '#'

/-- The segments of a path of a file without the empty ones before the first name. -/
def withoutBlanks : List (List Char) → List (List Char)
  | [] :: next :: rest => withoutBlanks (next :: rest)
  | segments => segments

/-- The segments of a path, after its first slash. -/
def readSegments (kind : SchemeKind) (text : List Char) : UrlPath :=
  let segments := resolveDots [] ((splitOn (isSlash kind) text).map (encodeMarks pathMarks))
  .hierarchical (if kind = .file then withoutBlanks segments else segments)

/-- The path after a host. -/
def readPath (kind : SchemeKind) (text : List Char) : UrlPath :=
  match text with
  | [] => if kind = .other then .hierarchical [] else .hierarchical [[]]
  | c :: rest => if isSlash kind c then readSegments kind rest else readSegments kind (c :: rest)

/-- Adds the query and the fragment at the end of an address. -/
def withTail (url : Url) (kind : SchemeKind) (text : List Char) : Url :=
  let withFragment (url : Url) (text : List Char) : Url :=
    match text with
    | '#' :: rest => { url with fragment := some (encodeMarks fragmentMarks rest) }
    | _ => url
  match text with
  | '?' :: rest =>
    let (query, rest) := rest.span (· != '#')
    withFragment { url with query := some (encodeMarks (queryMarks kind) query) } rest
  | rest => withFragment url rest

/-- Adds the path, the query and the fragment. -/
def withPath (url : Url) (kind : SchemeKind) (text : List Char) : Url :=
  let (path, rest) := text.span fun c => !endsPath c
  withTail { url with path := readPath kind path } kind rest

/-! ### Authorities -/

/-- Whether a character ends an authority. -/
def endsAuthority (kind : SchemeKind) (c : Char) : Bool := isSlash kind c || endsPath c

/-- What stands before and after the last at sign. -/
def splitUser? (authority : List Char) : Option (List Char × List Char) :=
  if authority.contains '@' then
    let host := (authority.reverse.takeWhile (· != '@')).reverse
    some (authority.take (authority.length - host.length - 1), host)
  else none

/-- The host and what follows it: a colon inside brackets belongs to the host. -/
def spanHost (inBrackets : Bool) : List Char → List Char × List Char
  | [] => ([], [])
  | c :: rest =>
    if c == ':' && !inBrackets then ([], c :: rest)
    else
      let inside := if c == '[' then true else if c == ']' then false else inBrackets
      let (host, after) := spanHost inside rest
      (c :: host, after)

/-- Reads a port, and what follows it after a backslash. No digits stand for no port. -/
def readPort (scheme : String) (text : List Char) :
    Except AddressFault (Option Nat × List Char) :=
  let (digits, rest) := text.span isDigit
  if rest.isEmpty || rest.head? = some '\\' then
    let port := digits.foldl (fun n d => n * 10 + (d.toNat - '0'.toNat)) 0
    if 65535 < port then .error .invalidPort
    else if digits.isEmpty || defaultPorts.lookup scheme = some port then .ok (none, rest)
    else .ok (some port, rest)
  else .error .invalidPort

/-- Reads the host and the port of an authority, and what follows the port. -/
def readHostAndPort (scheme : String) (kind : SchemeKind) (text : List Char) :
    Except AddressFault (Host × Option Nat × List Char) := do
  let (name, rest) := spanHost false text
  if name.isEmpty && (kind = .network || rest.head? = some ':') then throw .emptyHost
  let host ← if kind = .other then Host.readOpaque name else Host.read name
  match rest with
  | ':' :: port => return (host, ← readPort scheme port)
  | _ => return (host, none, [])

/-- The name and the password of a user. -/
def readUser (text : List Char) : List Char × List Char :=
  let (name, rest) := text.span (· != ':')
  (encodeMarks userMarks name, encodeMarks userMarks (rest.drop 1))

/-- Reads an address after the slashes before its authority. -/
def readAuthority (scheme : String) (kind : SchemeKind) (text : List Char) :
    Except AddressFault Url := do
  let (authority, rest) := text.span fun c => !endsAuthority kind c
  match splitUser? authority with
  | none =>
    let (host, port, more) ← readHostAndPort scheme kind authority
    return withPath { scheme, host := some host, port } kind (more ++ rest)
  | some (user, hostText) =>
    if hostText.isEmpty && !(user.isEmpty && rest.isEmpty && kind != .network) then
      throw .emptyHost
    let (host, port, more) ← readHostAndPort scheme kind hostText
    let (username, password) := readUser user
    return withPath { scheme, username, password, host := some host, port } kind (more ++ rest)

/-! ### Files -/

/-- An address in which the drive at the start of the path is written with a colon. -/
def withDrive (url : Url) : Url :=
  match url.path with
  | .hierarchical ([letter, '|'] :: rest) =>
    if isAsciiLetter letter then { url with path := .hierarchical ([letter, ':'] :: rest) } else url
  | _ => url

/-- Reads the address of a file. The host may be absent. -/
def readFile (text : List Char) : Except AddressFault Url := do
  let plain := withDrive (withPath { scheme := "file" } .file text)
  match text with
  | a :: b :: rest =>
    if isSlash .file a && isSlash .file b then
      let (name, after) := rest.span fun c => !endsAuthority .file c
      if isDrive name then return withDrive (withPath { scheme := "file" } .file rest)
      else if name.isEmpty then return withPath { scheme := "file" } .file after
      else
        let host ← Host.read name
        let isLocal := host == .domain "localhost".toList
        let host := if isLocal then none else some host
        return withPath { scheme := "file", host } .file after
    else return plain
  | _ => return plain

/-! ### Addresses -/

/-- Whether a character may follow the first one of a scheme. -/
def isSchemeChar (c : Char) : Bool :=
  isAsciiLetter c || isDigit c || c == '+' || c == '-' || c == '.'

/-- Reads an address with a scheme that is not known. -/
def readOther (scheme : String) (text : List Char) : Except AddressFault Url :=
  match text with
  | '/' :: '/' :: rest => readAuthority scheme .other rest
  | '/' :: rest =>
    let (path, tail) := rest.span fun c => !endsPath c
    .ok (withTail { scheme, path := readSegments .other path } .other tail)
  | text =>
    let (path, tail) := text.span fun c => !endsPath c
    .ok (withTail { scheme, path := .plain (encodeMarks [] path) } .other tail)

/-- A text without the blanks and control characters around it and without line breaks and tabs. -/
def cleaned (text : List Char) : List Char :=
  let isEdge (c : Char) : Bool := c.toNat ≤ 0x20
  let inner := ((text.dropWhile isEdge).reverse.dropWhile isEdge).reverse
  inner.filter fun c => c != '\t' && c != '\n' && c != '\r'

/-- Reads an address. -/
def read (text : List Char) : Except AddressFault Url :=
  match (cleaned text).span isSchemeChar with
  | (first :: more, ':' :: rest) =>
    if isAsciiLetter first then
      let scheme := String.ofList ((first :: more).map Char.toLower)
      match schemeKind scheme with
      | .network => readAuthority scheme .network (rest.dropWhile (isSlash .network))
      | .file => readFile rest
      | .other => readOther scheme rest
    else .error .noScheme
  | _ => .error .noScheme

/-! ### Writing -/

/-- The written form of a path. -/
def pathText : UrlPath → List Char
  | .hierarchical segments => segments.flatMap fun segment => '/' :: segment
  | .plain text => text

/-- The written form of the name and the password of a user. -/
def userText (url : Url) : List Char :=
  if url.username.isEmpty && url.password.isEmpty then []
  else if url.password.isEmpty then url.username ++ ['@']
  else url.username ++ ':' :: url.password ++ ['@']

/-- What is written between the scheme and the path. A point keeps two slashes at the start of a
path from being taken for those before a host. -/
def authorityText (url : Url) : List Char :=
  match url.host, pathText url.path with
  | some host, _ =>
    '/' :: '/' :: url.userText ++ host.toText ++
      ((url.port.map fun port => ':' :: (toString port).toList).getD [])
  | none, '/' :: '/' :: _ => if url.scheme = "file" then ['/', '/'] else ['/', '.']
  | none, _ => if url.scheme = "file" then ['/', '/'] else []

/-- The written form of an address. -/
def toText (url : Url) : List Char :=
  url.scheme.toList ++ ':' :: authorityText url ++ pathText url.path ++
    ((url.query.map ('?' :: ·)).getD []) ++ ((url.fragment.map ('#' :: ·)).getD [])

/-- The address without the name and the password of a user, if they are texts. -/
def withoutUser (url : Url) : Url :=
  match percentDecode? url.username, percentDecode? url.password with
  | none, _ | some [], none => url
  | _, _ => { url with username := [], password := [] }

end Url

end FieldAccess.Net
