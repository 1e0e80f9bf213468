import Wiretap.Counters.Exposition
import Wiretap.Journal
import Wiretap.Net.Network
/-! # The counters' service

A request is answered after one read: by the counters, by a sign of life, or by a refusal. Only the
beginning of what was read is looked at. A connection that cannot be accepted gets no answer, and
the service goes on with the next one.
-/

namespace Wiretap.CounterService

/-- The entry about an address where the service was to be opened, with what came of it. -/
def openEntry (address : SocketAddress) : Except IoFault Unit → Entry
  | .ok () => .info .service "Metrics server started" [("bind_addr", .text address.toText)]
  | .error fault => .error .program s!"Metrics server error: {fault.message}"

/-- What a request asks for. -/
inductive Resource where
  | counters | health | unknown
  deriving Repr, DecidableEq, BEq

def readSize : Nat := 1024

def resource (request : Bytes) : Resource :=
  if (Bytes.ofText "GET /metrics").isPrefixOf request then .counters
  else if (Bytes.ofText "GET /health").isPrefixOf request then .health
  else .unknown

def response (status kind body : String) : String :=
  s!"HTTP/1.1 {status}\r\nContent-Type: {kind}\r\nContent-Length: {Bytes.lengthOf body}\r\n" ++
    s!"Connection: close\r\n\r\n{body}"

def answerTo (cs : Counters) : Resource → String
  | .counters => response "200 OK" "text/plain; version=0.0.4; charset=utf-8" cs.expose
  | .health => response "200 OK" "text/plain" "OK"
  | .unknown => response "404 Not Found" "text/plain" "Not Found"

/-- The answer to what was read. When nothing came there is none. -/
def answerRead? (cs : Counters) (read : Bytes) : Option String :=
  if read.isEmpty then none else some (answerTo cs (resource read))

/-- Answer the next connection that waits. -/
def serve (cs : Counters) (listener : Nat) (n : Network) : Network :=
  match n.accept listener with
  | (.ready (.ok socket), n) =>
    match n.receive socket readSize with
    | (.ready (.ok read), n) =>
      let n := (answerRead? cs read).elim n fun text => (n.send socket (Bytes.ofText text)).2
      n.close socket
    | (_, n) => n.close socket
  | (_, n) => n

/-- What a client receives who sends a request in one piece and nothing more. -/
def exchange (cs : Counters) (listener : Nat) (address : SocketAddress) (request : Bytes)
    (n : Network) : Bytes × Network :=
  match n.dial address with
  | (.error _, n) => ([], n)
  | (.ok client, n) =>
    let n := serve cs listener ((n.send client request).2.shutdown client)
    let (response, n) := n.drain client
    (response, n.close client)

end Wiretap.CounterService
