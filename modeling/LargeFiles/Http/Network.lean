import LargeFiles.Http.Request
import LargeFiles.Http.Status

/-!
# The network

The network as its users see it: requests go out and responses come back.  A `Network` is a value
that holds the replies to come and the requests that were sent, so that what a client does is a
function of the replies.

What lies below is not part of it.  A reply is what the HTTP library hands over: redirects have been
followed by then, and the body is free of the framing that it was sent in.  Likewise a request is
what the library is given to send.  Nor is time a part of it: a reply comes or does not come.
-/

namespace LargeFiles.Http

/-- How much of a reply arrives. -/
inductive Delivery
  | whole
  /-- The connection is closed before the status arrives. -/
  | nothing
  /-- The connection breaks off within the body. -/
  | cutOff
  deriving DecidableEq, Repr

/-- What is said in answer to a request, as the HTTP library hands it over: after redirects, and
    without the framing of the body.  The body arrives in pieces. -/
structure Reply where
  status : Nat
  body : List Bytes
  delivery : Delivery
  deriving DecidableEq

/-- The answer when nothing else is to be said. -/
def Reply.exhausted : Reply := ⟨599, [Bytes.ofString "script exhausted"], .whole⟩

/-- A response whose status has arrived. -/
structure Response where
  status : Nat
  /-- The pieces of the body that arrive. -/
  body : List Bytes
  /-- Whether the body arrives to its end. -/
  whole : Bool
  deriving DecidableEq

namespace Response

/-- Whether the request succeeded. -/
def isSuccess (response : Response) : Bool := Status.isSuccess response.status

/-- The whole body, if it arrives. -/
def content? (response : Response) : Option Bytes :=
  if response.whole then some response.body.flatten else none

/-- The body as a text for people.  One that breaks off counts as empty. -/
def text (response : Response) : String :=
  match response.content? with
  | some content => Bytes.toStringLossy content
  | none => ""

end Response

/-- What is to come and what has been sent. -/
structure Network where
  /-- Whether requests arrive at all. -/
  reachable : Bool
  /-- The replies to the next requests, in order. -/
  replies : List Reply
  /-- The requests that were sent, in order. -/
  sent : List Request
  deriving DecidableEq

namespace Network

/-- The reply to the next request, and those after it. -/
def next (network : Network) : Reply × List Reply :=
  match network.replies with
  | reply :: rest => (reply, rest)
  | [] => (.exhausted, [])

/-- The response that a reply becomes, if its status arrives. -/
def receive (reply : Reply) : Option Response :=
  match reply.delivery with
  | .whole => some ⟨reply.status, reply.body, true⟩
  | .nothing => none
  | .cutOff => some ⟨reply.status, reply.body, false⟩

/-- Sends a request and waits for the response. -/
def exchange (network : Network) (request : Request) : Option Response × Network :=
  if network.reachable then
    let (reply, rest) := network.next
    (receive reply, { network with replies := rest, sent := network.sent ++ [request] })
  else (none, network)

/-- What is sent is the request, unless the network is out of reach. -/
theorem sent_exchange (network : Network) (request : Request) :
    (network.exchange request).2.sent =
      network.sent ++ if network.reachable then [request] else [] := by
  unfold exchange
  split <;> simp_all

/-- A request uses up the next reply. -/
theorem replies_exchange (network : Network) (request : Request) :
    (network.exchange request).2.replies =
      if network.reachable then network.replies.tail else network.replies := by
  unfold exchange next
  split
  · cases network.replies <;> rfl
  · rfl

@[simp] theorem reachable_exchange (network : Network) (request : Request) :
    (network.exchange request).2.reachable = network.reachable := by
  unfold exchange
  split <;> simp_all

end Network

end LargeFiles.Http
