import MeteredChecker.Address.Printer
import MeteredChecker.Text.Charset

/-!
# Requests and responses

A request names an address; what reaches the server of it is the part behind the
host, and that only if the address is an absolute one in a scheme that is spoken
there.  Each request goes out on a connection of its own, and what comes back is a
response or nothing.

A `Line` is the server as the client sees it: whether anybody listens and in which
schemes, the deliveries that it has left, one for each connection, and the requests
that it has received.  A line on which nobody listens receives none.  When the
deliveries have run out the server hangs up on every further request, having
received it.  A request that gets no complete response is complained about, in words
that come with the line, since they are made up by the system underneath.

A response may break off: its head is there, its body is not all there.  The three
statuses that never have a body cannot break off.  And a response may have a head
that cannot be read, which is as good as no response.

A head is made of lines.  If a content type has line breaks in it, only its first line is
the content type, and the others have to be fields of the head, too, whose names and
values do not matter.
-/

namespace MeteredChecker

/-- The methods of requests. -/
inductive Method where
  | get
  | post
  deriving DecidableEq, Repr

/-- The name of a method. -/
def Method.name : Method → String
  | .get => "GET"
  | .post => "POST"

/-- A request as the server receives it. -/
structure Request where
  method : Method
  target : String
  contentType : Option String
  body : String
  deriving DecidableEq, Repr

/-- A response: its head, and the octets of its body if all of them arrive. -/
structure Response where
  status : UInt16
  contentType : Option String
  body : Option (List UInt8)
  deriving DecidableEq, Repr

namespace Response

/-- A response with this status never has a body. -/
def isBodiless (r : Response) : Bool := r.status == 101 || r.status == 204 || r.status == 304

/-- Whether a character may stand in a line of the head of a response. -/
def isHeadChar (c : Char) : Bool := c == '\t' || (0x20 ≤ c.toNat && c.toNat != 0x7F)

/-- Whether a line is a field: a name and, behind a colon, a value. -/
def isField (line : List Char) : Bool :=
  let name := line.takeWhile Text.MediaType.isTokenChar
  !name.isEmpty && (line.drop name.length).head? == some ':'

/-- The lines of a text in the head.  A line break may have a carriage return in front,
but not at the end of the text. -/
def headLines (s : List Char) : List (List Char) :=
  let lines := Text.split '\n' s
  let unreturned := fun line : List Char =>
    if line.getLast? == some '\r' then line.dropLast else line
  lines.dropLast.map unreturned ++ lines.getLast?.toList

/-- Whether a status ends the wait for a response.  It has three digits, and those from
100 to 199 only announce the response, except for 101, behind which the connection is
not for requests any more. -/
def isFinalStatus (status : UInt16) : Bool :=
  status == 101 || (200 ≤ status && status < 1000)

/-- Whether the head of the response can be read: its status is a final one, no control
character is in it, and what follows the content type is fields. -/
def isReadable (r : Response) : Bool :=
  isFinalStatus r.status && r.contentType.all fun t =>
    let lines := headLines t.toList
    lines.all (·.all isHeadChar) && lines.tail.all isField

/-- The content type, without the spaces and tabs around it. -/
def mediaType (r : Response) : Option String :=
  r.contentType.map fun t =>
    let isOuter := fun c : Char => c == ' ' || c == '\t'
    let line := (headLines t.toList).headD []
    String.ofList ((line.dropWhile isOuter).reverse.dropWhile isOuter).reverse

/-- The body as text, or `none` if it breaks off.  The charset is taken from the content
type, as it is outside of a browser; the page in a browser takes every body for UTF-8. -/
def text? (r : Response) : Option String :=
  if r.isBodiless then some ""
  else r.body.map (Text.ofBody r.mediaType)

end Response

/-- What comes back on a connection: a response, or nothing. -/
abbrev Delivery := Option Response

/-! ## Addresses -/

/-- Whether a request can be made to a host: the name of a host may have a few
characters that the head of a request may not. -/
def isAddressable : Address.Host → Bool
  | .name text => !text.any ['"', '\x60', '\x7b', '\x7d'].contains
  | _ => true

/-- How long the text of an address may be for requests to be made to it. -/
def longestAddress : Nat := 65534

/-- The schemes in which requests can be made: over a plain connection, or a secured one. -/
inductive Scheme where
  | http
  | https
  deriving DecidableEq, Repr

/-- The name of a scheme. -/
def Scheme.name : Scheme → String
  | .http => "http"
  | .https => "https"

/-- What a server that speaks some schemes is told of an address, if it can be reached at
all: the address has to be a complete one in one of the schemes. -/
def requestTarget? (schemes : List Scheme) (url : String) : Option String := do
  let a ← Address.read? none url
  if schemes.any (·.name == a.scheme) && a.host.any isAddressable &&
      a.chars.length ≤ longestAddress then
    pure a.target
  else none

/-! ## Lines -/

/-- A server as the client sees it, and what is said of a request to it that gets no
complete response. -/
structure Line where
  listening : Bool
  schemes : List Scheme
  deliveries : List Delivery
  received : List Request
  complaint : String
  deriving Repr

/-- A server without security that has received nothing yet. -/
def Line.new (listening : Bool) (deliveries : List Delivery) : Line :=
  ⟨listening, [.http], deliveries, [], "no complete response"⟩

/-- Sends a request to an address and waits for what comes back. -/
def Line.send (line : Line) (method : Method) (url : String) (contentType : Option String)
    (body : String) : Delivery × Line :=
  match requestTarget? line.schemes url with
  | none => (none, line)
  | some target =>
      if line.listening then
        let received := line.received ++ [⟨method, target, contentType, body⟩]
        match line.deliveries with
        | [] => (none, { line with received := received })
        | delivery :: more =>
            (delivery.filter Response.isReadable,
              { line with deliveries := more, received := received })
      else (none, line)

end MeteredChecker
