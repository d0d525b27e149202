import Telemetry.Delivery.Endpoint
import Telemetry.Delivery.Message

/-!
Contract: the address of a message in its normal form.

Owns:
- the parts of a web address: authority, path and query, without the fragment;
- dot segments, and the escapes of characters that may not stand in a part;
- the target that the first line of a message names.

Does not own: names of hosts; an authority is only checked for a port.
-/

namespace Telemetry

structure WebAddress where
  authority : List Char
  path : List Char
  query : Option (List Char)
deriving DecidableEq, Repr

namespace WebAddress

/-- The escapes of a character's UTF-8 bytes. -/
def escape (character : Char) : List Char :=
  (String.singleton character).toUTF8.toList.flatMap fun byte =>
    ['%', Hexadecimal.upper (byte.toNat / 16), Hexadecimal.upper (byte.toNat % 16)]

/-- Control characters and those that are not ASCII are escaped everywhere. -/
def isForeign (character : Char) : Bool :=
  decide (character.toNat < 0x20) || decide (0x7E < character.toNat)

/-- Characters are escaped if they are foreign or among those listed. -/
def escapeParts (listed : List Char) (characters : List Char) : List Char :=
  characters.flatMap fun character =>
    if isForeign character || listed.contains character then escape character else [character]

/-- The characters that are escaped in a path. -/
def pathEscapes : List Char := [' ', '"', '#', '<', '>', '?', '\x60', '\x7b', '\x7d']

/-- The characters that are escaped in a query. -/
def queryEscapes : List Char := [' ', '"', '#', '<', '>', '\x27']

/-- A slash or a backslash. -/
def isSlash (character : Char) : Bool := character == '/' || character == '\\'

def endsAuthority (character : Char) : Bool :=
  isSlash character || character == '?' || character == '#'

def endsPath (character : Char) : Bool := character == '?' || character == '#'

/-- The segments of a path between its slashes. -/
def segments : List Char → List (List Char)
  | [] => [[]]
  | character :: rest =>
    if isSlash character then
      [] :: segments rest
    else
      match segments rest with
      | [] => [[character]]
      | first :: others => (character :: first) :: others

/-- A segment in small letters with escaped dots written out. -/
def plainDots : List Char → List Char
  | '%' :: '2' :: 'e' :: rest => '.' :: plainDots rest
  | '%' :: '2' :: 'E' :: rest => '.' :: plainDots rest
  | character :: rest => character :: plainDots rest
  | [] => []

/-- Follows the dot segments: one dot stays, two dots go back. `passed` are the
segments before, the latest first. A dot segment at the end leaves an empty
segment. -/
def resolve (passed : List (List Char)) : List (List Char) → List (List Char)
  | [] => passed.reverse
  | [last] =>
    if plainDots last = ['.', '.'] then
      ([] :: passed.drop 1).reverse
    else if plainDots last = ['.'] then
      ([] :: passed).reverse
    else
      (last :: passed).reverse
  | segment :: rest =>
    if plainDots segment = ['.', '.'] then
      resolve (passed.drop 1) rest
    else if plainDots segment = ['.'] then
      resolve passed rest
    else
      resolve (segment :: passed) rest

/-- The normal form of a path without its first slash. -/
def normalPath (characters : List Char) : List Char :=
  let resolved := resolve [] ((segments characters).map (escapeParts pathEscapes))
  resolved.flatMap fun segment => '/' :: segment

/-- An authority that names a host, with a port below 65536 if there is one. -/
def isAuthority (characters : List Char) : Bool :=
  let host := characters.takeWhile (· != ':')
  let port := (characters.dropWhile (· != ':')).drop 1
  !host.isEmpty && port.all Decimal.isDigit && decide (Decimal.digitsValue port < 65536)

def afterScheme (characters : List Char) : List Char :=
  ((characters.dropWhile (· != ':')).drop 1).dropWhile isSlash

/-- The address of a text that starts with a web scheme. -/
def ofText? (text : String) : Option WebAddress :=
  let visible := text.toList.filter fun character =>
    character != '\t' && character != '\n' && character != '\r'
  let rest := afterScheme visible
  let authority := rest.takeWhile fun character => !endsAuthority character
  let rest := rest.dropWhile fun character => !endsAuthority character
  if isAuthority authority then
    let path := rest.takeWhile fun character => !endsPath character
    let path := match path with
      | [] => []
      | _ :: others => others
    match rest.dropWhile fun character => !endsPath character with
    | '?' :: query =>
      let query := query.takeWhile (· != '#')
      some ⟨authority, normalPath path, some (escapeParts queryEscapes query)⟩
    | _ => some ⟨authority, normalPath path, none⟩
  else
    none

def withQuery (address : WebAddress) (encoded : List Char) : WebAddress :=
  if encoded.isEmpty then
    { address with query := address.query.filter fun query => !query.isEmpty }
  else
    match address.query with
    | none | some [] => { address with query := some encoded }
    | some query => { address with query := some (query ++ ['&'] ++ encoded) }

/-- The path and the query. -/
def target (address : WebAddress) : String :=
  String.ofList (address.path ++
    match address.query with
    | none => []
    | some query => '?' :: query)

end WebAddress

/-- The path and the query that the first line of a message names, if the
endpoint is an address. -/
def Endpoint.target? (endpoint : Endpoint) (message : HttpMessage) : Option String :=
  (WebAddress.ofText? (endpoint.url message.method)).map fun address =>
    match message.method with
    | .get => (address.withQuery message.query).target
    | .post => address.target

example : (WebAddress.ofText? "http://h:80/a/../b c/./?x#y").map WebAddress.target =
    some "/b%20c/?x" := by decide +kernel

end Telemetry
