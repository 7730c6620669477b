import MeteredChecker.Address.Host

/-!
# Addresses

An address names a scheme, a host and a socket on it, a path, a query and a fragment.
Reading one settles everything about it that can be written in more than one way: the
blanks around it, the case of its scheme, the escapes in it, and the steps `.` and
`..` of its path are gone afterwards.  The user is read, too, but not kept, since
nothing depends on who it is.

A few schemes --- the ones of the web and `file` --- are *special*.  Their slashes
may lean either way, there may be any number of slashes in front of the host, and
their path is never empty.

A segment such as `C:` is a *drive*, whatever the scheme.  No step goes back over it.
For a file a drive is always written with a colon, it is never taken for a host, and
the path has no empty segments at its beginning.

A text without a scheme denotes an address in relation to another one, if there
is one: with two slashes it names another host, with one another path, and with
none it replaces the last segment of the path.
-/

namespace MeteredChecker
namespace Address

/-- The part of an address that names a thing on its host: segments, each behind
a slash, or a text without structure. -/
inductive Path where
  | segments (list : List (List Char))
  | opaqueText (text : List Char)
  deriving DecidableEq, Repr

/-- The characters of a path. -/
def Path.chars : Path → List Char
  | .segments list => list.flatMap fun s => '/' :: s
  | .opaqueText text => text

end Address

/-- An address.  It has no socket if that is the one that goes with its scheme. -/
structure Address where
  scheme : String
  host : Option Address.Host
  socket : Option Nat
  path : Address.Path
  query : Option (List Char)
  fragment : Option (List Char)
  deriving DecidableEq, Repr

namespace Address

/-! ## Schemes -/

/-- The special schemes that have a host. -/
def webSchemes : List String := ["http", "https", "ws", "wss", "ftp"]

/-- Whether a scheme is special. -/
def isSpecial (scheme : String) : Bool := webSchemes.contains scheme || scheme == "file"

/-- Whether a character may stand in a scheme. -/
def isSchemeChar (c : Char) : Bool := c.isAlphanum || c == '+' || c == '-' || c == '.'

/-- The scheme of a text, in small letters, and what is behind its colon. -/
def scheme? (s : List Char) : Option (String × List Char) :=
  let name := s.takeWhile isSchemeChar
  match s.drop name.length with
  | ':' :: rest =>
      if name.head?.any Char.isAlpha then
        some (String.ofList (name.map Char.toLower), rest)
      else none
  | _ => none

/-! ## Paths -/

/-- Whether a character separates segments. -/
def isSlash (special : Bool) (c : Char) : Bool := c == '/' || (special && c == '\\')

/-- Slashes that all lean the same way. -/
def upright (special : Bool) (s : List Char) : List Char :=
  if special then s.map fun c => if c = '\\' then '/' else c else s

/-- The segment that stays where it is. -/
def isHere (segment : List Char) : Bool :=
  [".", "%2e"].contains (String.ofList (segment.map Char.toLower))

/-- The segment that goes back by one. -/
def isBack (segment : List Char) : Bool :=
  ["..", ".%2e", "%2e.", "%2e%2e"].contains (String.ofList (segment.map Char.toLower))

/-- Whether a segment is a drive: a letter with a colon or a bar. -/
def isDrive : List Char → Bool
  | [c, d] => c.isAlpha && (d == ':' || d == '|')
  | _ => false

/-- The path a step back. -/
def back (path : List (List Char)) : List (List Char) :=
  if path.getLast?.any isDrive then path else path.dropLast

/-- Follows segments from where `path` leads.  What is reached by a step at the end
is a place, and has an empty last segment. -/
def follow (path : List (List Char)) : List (List Char) → List (List Char)
  | [] => path
  | [last] =>
      if isBack last then back path ++ [[]]
      else if isHere last then path ++ [[]]
      else path ++ [last]
  | segment :: more =>
      if isBack segment then follow (back path) more
      else if isHere segment then follow path more
      else follow (path ++ [segment]) more

/-- The segments of a text, from where `path` leads. -/
def walk (special : Bool) (path : List (List Char)) (s : List Char) : Path :=
  .segments (follow path (Text.split '/' (escape pathSpecial (upright special s))))

/-- The path behind a host. -/
def pathBehind (special : Bool) (s : List Char) : Path :=
  match s with
  | [] => .segments (if special then [[]] else [])
  | c :: rest => walk special [] (if isSlash special c then rest else s)

/-- A segment of the path of a file. -/
def fileSegment (segment : List Char) : List Char :=
  if isDrive segment then segment.take 1 ++ [':'] else segment

/-- The path of a file. -/
def filePath (s : List Char) : Path :=
  match pathBehind true s with
  | .segments list =>
      match (list.map fileSegment).dropWhile List.isEmpty with
      | [] => .segments [[]]
      | list => .segments list
  | path => path

/-! ## Hosts -/

/-- The user, and what is behind the `@` that ends it.  The last `@` counts. -/
def atUser (authority : List Char) : Option (List Char) × List Char :=
  if authority.contains '@' then
    let host := (authority.reverse.takeWhile (· != '@')).reverse
    (some (authority.take (authority.length - host.length - 1)), host)
  else (none, authority)

/-- Whether a user is named: a colon alone, in front of a password, names none. -/
def isNamed (user : List Char) : Bool := !(user == [] || user == [':'])

/-- What is before the number of a socket, and the digits of it.  Colons in brackets
belong to the host. -/
def atSocket (bracket : Bool) : List Char → List Char × Option (List Char)
  | [] => ([], none)
  | c :: s =>
      if c = ':' && !bracket then ([], some s)
      else
        let rest := atSocket (if c = '[' then true else if c = ']' then false else bracket) s
        (c :: rest.1, rest.2)

/-- The number of a socket, which has 16 bits. -/
def socketNumber? (digits : List Char) : Option Nat := (numeral? 10 0 digits).filter (· < UInt16.size)

/-- The socket that goes with a scheme. -/
def ownSocket? (scheme : String) : Option Nat :=
  [("http", 80), ("https", 443), ("ws", 80), ("wss", 443), ("ftp", 21)].lookup scheme

/-- The socket that digits denote, possibly none, if it is not the one that goes with the
scheme. -/
def socket? (scheme : String) (digits : List Char) : Option (Option Nat) := do
  let n ← socketNumber? digits
  pure (if digits.isEmpty || ownSocket? scheme == some n then none else some n)

/-- The host in an authority, and the socket. -/
def host? (scheme : String) (authority : List Char) : Option (Host × Option Nat) := do
  let (user, rest) := atUser authority
  let (host, digits) := atSocket false rest
  let socket ← socket? scheme (digits.getD [])
  if webSchemes.contains scheme then pure (← webHost? host, socket)
  else if host.isEmpty && (digits.isSome || user.any isNamed) then none
  else pure (← plainHost? host, socket)

/-! ## Reading -/

/-- A text without the controls and blanks around it, and without tabs and line
breaks anywhere. -/
def cleaned (s : List Char) : List Char :=
  let isOuter := fun c : Char => c.toNat ≤ 0x20
  let inner := ((s.dropWhile isOuter).reverse.dropWhile isOuter).reverse
  inner.filter fun c => !(c == '\t' || c == '\n' || c == '\r')

/-- The address with a host and what follows it, from behind the slashes. -/
def withHost (scheme : String) (query : Option (List Char)) (s : List Char) :
    Option Address := do
  let special := isSpecial scheme
  let authority := s.takeWhile fun c => !isSlash special c
  let (host, socket) ← host? scheme authority
  pure ⟨scheme, some host, socket, pathBehind special (s.drop authority.length), query, none⟩

/-- The address of a file, from behind two slashes.  Nothing but a host may be in front
of the path, and a file of `localhost` has none. -/
def withFileHost (query : Option (List Char)) (s : List Char) : Option Address :=
  let authority := s.takeWhile fun c => !isSlash true c
  if authority.isEmpty || isDrive authority then
    some ⟨"file", none, none, filePath s, query, none⟩
  else do
    let host ← webHost? authority
    let host := if host = .name "localhost".toList then none else some host
    pure ⟨"file", host, none, filePath (s.drop authority.length), query, none⟩

/-- The address that a text without a scheme denotes in relation to another. -/
def relative (base : Address) (query : Option (List Char)) (s : List Char) :
    Option Address :=
  let special := isSpecial base.scheme
  match base.path, s with
  | .opaqueText _, _ => none
  | path, [] => some { base with path := path, query := query.or base.query }
  | .segments path, c :: rest =>
      if isSlash special c then
        if rest.head?.any (isSlash special) then
          withHost base.scheme query (rest.dropWhile (isSlash special))
        else some { base with path := walk special [] rest, query := query }
      else some { base with path := walk special path.dropLast (c :: rest), query := query }

/-- The address that a text with a scheme denotes. -/
def absolute (base : Option Address) (scheme : String) (query : Option (List Char))
    (s : List Char) : Option Address :=
  if webSchemes.contains scheme then
    let slashes := s.takeWhile (isSlash true)
    match base.filter fun b => b.scheme == scheme && slashes.length < 2 with
    | some b => relative b query s
    | none => withHost scheme query (s.drop slashes.length)
  else if scheme == "file" then
    let slashes := s.takeWhile (isSlash true)
    if slashes.length < 2 then some ⟨scheme, none, none, filePath s, query, none⟩
    else withFileHost query (s.drop 2)
  else match s with
    | '/' :: '/' :: rest => withHost scheme query rest
    | '/' :: rest => some ⟨scheme, none, none, walk false [] rest, query, none⟩
    | s => some ⟨scheme, none, none, .opaqueText (escape [] s), query, none⟩

/-- The address that a text without a fragment denotes. -/
def withoutFragment? (base : Option Address) (s : List Char) : Option Address :=
  let main := s.takeWhile (· != '?')
  let named := scheme? main
  let scheme := match named with
    | some (name, _) => name
    | none => (base.map Address.scheme).getD ""
  let query := match s.drop main.length with
    | _ :: q => some (escape (querySpecial (isSpecial scheme)) q)
    | [] => none
  match named, base with
  | some (_, rest), base => absolute base scheme query rest
  | none, some base => relative base query main
  | none, none => none

/-- Reads an address, possibly in relation to another. -/
def read? (base : Option Address) (text : String) : Option Address :=
  let s := cleaned text.toList
  let main := s.takeWhile (· != '#')
  let fragment := match s.drop main.length with
    | _ :: f => some (escape fragmentSpecial f)
    | [] => none
  (withoutFragment? base main).map fun a => { a with fragment := fragment }

/-- What a server is told of an address: the path and the query. -/
def target (a : Address) : String :=
  let query := match a.query with
    | some q => '?' :: q
    | none => []
  String.ofList (a.path.chars ++ query)

end Address
end MeteredChecker
