import Mathlib.Algebra.Order.BigOperators.Group.List
import Mathlib.Algebra.Order.Group.Nat
import Wiretap.Counters.Service
import Wiretap.Proofs.Net.Streams
import Wiretap.Proofs.Text.Utf8
import Wiretap.Settings.Basic
/-! # What clients of the counters' service are answered

The service looks at a request once, at what has arrived of it by then. The answer is the one that the
whole request asks for as long as that holds the words that the request begins with; when it breaks off
before, the request is refused, whatever follows.
-/

namespace Wiretap

/-! ## Resources -/

namespace CounterService

/-- The words that a request for a resource begins with. -/
def Resource.words : Resource → Bytes
  | .counters => Bytes.ofText "GET /metrics"
  | .health => Bytes.ofText "GET /health"
  | .unknown => []

variable {request first more : Bytes} {r : Resource}

theorem length_words_le (r : Resource) : r.words.length ≤ readSize := by
  cases r <;> decide +kernel

theorem resource_cases (request : Bytes) :
    (resource request = .counters ∧ Resource.counters.words <+: request) ∨
      (resource request = .health ∧ ¬Resource.counters.words <+: request ∧
        Resource.health.words <+: request) ∨
      (resource request = .unknown ∧ ¬Resource.counters.words <+: request ∧
        ¬Resource.health.words <+: request) := by
  simp only [resource, List.isPrefixOf_iff_prefix, Resource.words]
  split
  next counters => exact .inl ⟨rfl, counters⟩
  next other =>
    split
    next health => exact .inr (.inl ⟨rfl, other, health⟩)
    next neither => exact .inr (.inr ⟨rfl, other, neither⟩)

theorem resource_begins (request : Bytes) : (resource request).words <+: request := by
  rcases resource_cases request with ⟨asks, words⟩ | ⟨asks, _, words⟩ | ⟨asks, _⟩
  · rwa [asks]
  · rwa [asks]
  · rw [asks]
    exact List.nil_prefix

/-- No request begins with the words for two resources. -/
theorem resource_eq_of_prefix (words : r.words <+: request) (known : r ≠ .unknown) :
    resource request = r := by
  have apart (both : Resource.counters.words <+: request ∧ Resource.health.words <+: request) :
      False := by
    have nested := List.prefix_of_prefix_length_le both.2 both.1 (by decide +kernel)
    exact absurd nested (by decide +kernel)
  rcases resource_cases request with ⟨asks, begins⟩ | ⟨asks, counters, _⟩ | ⟨asks, counters, health⟩
  · cases r with
    | counters => exact asks
    | health => exact (apart ⟨begins, words⟩).elim
    | unknown => exact (known rfl).elim
  · cases r with
    | counters => exact (counters words).elim
    | health => exact asks
    | unknown => exact (known rfl).elim
  · cases r with
    | counters => exact (counters words).elim
    | health => exact (health words).elim
    | unknown => exact (known rfl).elim

theorem resource_append_of_known (known : resource first ≠ .unknown) :
    resource (first ++ more) = resource first :=
  resource_eq_of_prefix ((resource_begins first).trans (List.prefix_append first more)) known

theorem resource_of_long (long : (resource (first ++ more)).words.length ≤ first.length) :
    resource first = resource (first ++ more) := by
  by_cases known : resource (first ++ more) = .unknown
  · by_contra other
    rw [known] at other
    exact other ((resource_append_of_known other).symm.trans known)
  · have words := List.prefix_of_prefix_length_le (resource_begins (first ++ more))
      (List.prefix_append first more) long
    exact resource_eq_of_prefix words known

theorem resource_of_short (short : first.length < (resource (first ++ more)).words.length) :
    resource first = .unknown := by
  by_contra known
  rw [resource_append_of_known known] at short
  exact Nat.not_lt_of_le (resource_begins first).length_le short

/-- One read is enough for the words. -/
theorem resource_take (request : Bytes) : resource (request.take readSize) = resource request := by
  have whole := List.take_append_drop readSize request
  have long : (resource (request.take readSize ++ request.drop readSize)).words.length ≤
      (request.take readSize).length := by
    rw [whole, List.length_take]
    exact Nat.le_min.mpr ⟨length_words_le _, (resource_begins request).length_le⟩
  rw [resource_of_long long, whole]

theorem response_begins (status kind body : String) :
    ∃ rest, response status kind body = "HTTP/1.1 " ++ (status ++ rest) := by
  refine ⟨"\r\nContent-Type: " ++ (kind ++ ("\r\nContent-Length: " ++
    (toString (Bytes.lengthOf body) ++ ("\r\n" ++ ("Connection: close\r\n\r\n" ++ body))))), ?_⟩
  simp only [response, String.append_assoc]
  rfl

theorem ofText_answerTo_ne_nil (cs : Counters) (r : Resource) :
    Bytes.ofText (answerTo cs r) ≠ [] := by
  obtain ⟨rest, begins⟩ : ∃ rest, answerTo cs r = "HTTP/1.1 " ++ rest := by
    cases r with
    | counters | health | unknown =>
        obtain ⟨rest, begins⟩ := response_begins ..
        exact ⟨_, begins⟩
  rw [begins, Bytes.ofText_append]
  exact List.append_ne_nil_of_left_ne_nil (by decide +kernel) _

theorem answerTo_ne_of_known (cs : Counters) {r : Resource} (known : r ≠ .unknown) :
    Bytes.ofText (answerTo cs .unknown) ≠ Bytes.ofText (answerTo cs r) := by
  obtain ⟨rest, fine⟩ : ∃ rest, answerTo cs r = "HTTP/1.1 " ++ ("200 OK" ++ rest) := by
    cases r with
    | counters | health => exact response_begins ..
    | unknown => exact (known rfl).elim
  obtain ⟨other, refused⟩ : ∃ rest, answerTo cs .unknown = "HTTP/1.1 " ++ ("404 Not Found" ++ rest) :=
    response_begins ..
  rw [fine, refused]
  simp only [Bytes.ofText_append]
  intro same
  have codes := congrArg List.head? (List.append_cancel_left same)
  rw [List.head?_append_of_ne_nil _ (by decide +kernel),
    List.head?_append_of_ne_nil _ (by decide +kernel)] at codes
  exact absurd codes (by decide +kernel)

end CounterService

/-! ## Clients -/

theorem Socket.ne_opposite (s : Socket) : s ≠ s.opposite := by
  obtain ⟨c, side⟩ := s
  cases side <;> simp [opposite, Side.opposite]

/-- What a client does with its end of a connection. -/
inductive ClientStep where
  | send (segment : Bytes)
  | finish

namespace Network

variable {n m : Network} {client : Socket} {l : Nat} {arrived : Bytes}

def clientStep (client : Socket) (n : Network) : ClientStep → Network
  | .send segment => (n.send client segment).2
  | .finish => n.shutdown client

def clientSteps (client : Socket) (n : Network) (steps : List ClientStep) : Network :=
  steps.foldl (clientStep client) n

/-- A client is the next to be accepted. Some octets of it have arrived, and nothing was sent to it. -/
structure Asks (n : Network) (l : Nat) (client : Socket) (arrived : Bytes) : Prop where
  dialled : client.side = .dialled
  next : (n.queue l).head? = some client.connection
  accepts : n.failures.find? (·.1 == .accept) = none
  sent : ∃ e, n.endpoint? client.opposite = some e ∧ e.inbox.octets = arrived
  listens : ∃ e, n.endpoint? client = some e ∧ e.inbox.octets = [] ∧ e.isOpen = true ∧ e.ending = none

/-- Such a client can send more. -/
structure Goes (n : Network) (l : Nat) (client : Socket) (arrived : Bytes) : Prop extends
    Asks n l client arrived where
  heard : ∃ e, n.endpoint? client.opposite = some e ∧ e.isOpen = true ∧ e.ending = none

theorem send_of_open {s : Socket} {peer : Endpoint} {bytes : Bytes}
    (there : n.endpoint? s.opposite = some peer) (held : peer.isOpen = true)
    (unended : peer.ending = none) (some_ : bytes ≠ []) :
    n.send s bytes =
      (.ok (), n.modify s.opposite fun e => { e with inbox := e.inbox.push bytes }) := by
  have full : bytes.isEmpty = false := by simpa using some_
  simp only [send, there, held, unended, full]
  rfl

/-- What is done to the end across from a client does not matter as long as nothing is lost there. -/
theorem Asks.modify (h : n.Asks l client arrived) {f : Endpoint → Endpoint} {more : Bytes}
    (adds : ∀ e, (f e).inbox.octets = e.inbox.octets ++ more) :
    (n.modify client.opposite f).Asks l client (arrived ++ more) := by
  obtain ⟨e, there, octets⟩ := h.sent
  refine ⟨h.dialled, h.next, h.accepts, ⟨f e, ?_, by rw [adds, octets]⟩, ?_⟩
  · rw [endpoint?_modify, if_pos rfl, there]
    rfl
  · rw [endpoint?_modify_of_ne _ _ client.ne_opposite]
    exact h.listens

theorem Goes.send (h : n.Goes l client arrived) (segment : Bytes) :
    (clientStep client n (.send segment)).Goes l client (arrived ++ segment) := by
  obtain ⟨e, there, held, unended⟩ := h.heard
  cases segment with
  | nil =>
      have same : clientStep client n (.send []) = n := by
        simp only [clientStep, Network.send, there, held, unended]
        rfl
      rwa [same, List.append_nil]
  | cons octet more =>
      rw [clientStep, send_of_open there held unended (List.cons_ne_nil octet more)]
      refine ⟨h.modify fun e => e.inbox.octets_push _,
        { e with inbox := e.inbox.push (octet :: more) }, ?_, held, unended⟩
      rw [endpoint?_modify, if_pos rfl, there]
      rfl

theorem Goes.sends (h : n.Goes l client arrived) (segments : List Bytes) :
    (clientSteps client n (segments.map .send)).Goes l client (arrived ++ segments.flatten) := by
  induction segments generalizing n arrived with
  | nil => exact (List.append_nil arrived).symm ▸ h
  | cons segment segments ih =>
      rw [List.flatten_cons, ← List.append_assoc]
      exact ih (h.send segment)

theorem Asks.finish (h : n.Asks l client arrived) :
    (clientStep client n .finish).Asks l client arrived := by
  have finished := h.modify (f := fun e => { e with ending := e.ending.or (some .finished) })
    fun e => (List.append_nil e.inbox.octets).symm
  rwa [List.append_nil] at finished

/-- So many steps of a client that sends some segments and then finishes. -/
theorem Goes.asks (h : n.Goes l client []) (segments : List Bytes) (count : Nat) :
    (clientSteps client n ((segments.map ClientStep.send ++ [ClientStep.finish]).take count)).Asks l client
      (segments.take count).flatten := by
  by_cases within : count ≤ segments.length
  · rw [List.take_append_of_le_length (by simpa using within), ← List.map_take]
    exact (h.sends (segments.take count)).toAsks
  · have short := Nat.le_of_not_le within
    rw [List.take_of_length_le (by simp; omega), List.take_of_length_le short, clientSteps,
      List.foldl_append]
    exact (h.sends segments).finish

theorem endpoint?_clientStep (client : Socket) (n : Network) (step : ClientStep) :
    (clientStep client n step).endpoint? client = n.endpoint? client := by
  cases step with
  | finish => exact endpoint?_modify_of_ne _ _ client.ne_opposite
  | send segment =>
      cases sends : n.send client segment with
      | mk result m =>
          simp only [clientStep, sends]
          cases result with
          | error fault => rw [send_eq_of_error sends]
          | ok =>
              obtain ⟨_, _, _, _, ⟨_, rfl⟩ | ⟨_, rfl⟩⟩ := send_cases sends
              · rfl
              · exact endpoint?_modify_of_ne _ _ client.ne_opposite

theorem endpoint?_clientSteps (client : Socket) (n : Network) (steps : List ClientStep) :
    (clientSteps client n steps).endpoint? client = n.endpoint? client := by
  induction steps generalizing n with
  | nil => rfl
  | cons step steps ih => exact (ih _).trans (endpoint?_clientStep client n step)

theorem goes_of_dial {address : SocketAddress} (dials : n.dial address = (.ok client, m))
    (next : (m.queue l).head? = some client.connection)
    (accepts : m.failures.find? (·.1 == .accept) = none) : m.Goes l client [] := by
  rcases dial_cases dials with ⟨_, _, failed, _⟩ | ⟨failures, k, within, dialled, connected⟩
  · cases failed
  have connects : Connects n m k := connected ▸ connects_connect failures address within
  cases dialled
  obtain ⟨near, here⟩ := connects.begun .dialled
  obtain ⟨far, there⟩ := connects.begun .accepted
  exact ⟨⟨rfl, next, accepts, ⟨_, there, rfl⟩, _, here, rfl, rfl, rfl⟩, _, there, rfl, rfl⟩

theorem accept_of_next {c : Nat} (next : (n.queue l).head? = some c)
    (accepts : n.failures.find? (·.1 == .accept) = none) :
    ∃ k, n.accept l = (.ready (.ok ⟨c, .accepted⟩), k) ∧ k.connections = n.connections := by
  cases door : n.listeners[l]? with
  | none => simp [queue, door] at next
  | some x =>
      obtain ⟨rest, waiting⟩ : ∃ rest, x.queue = c :: rest := by
        simpa [queue, door, List.head?_eq_some_iff] using next
      refine ⟨{ n with listeners := n.listeners.modify l ({ · with queue := rest }) }, ?_, rfl⟩
      simp only [accept, door, waiting, attempt, accepts]

theorem receive_of_waiting {s : Socket} {e : Endpoint} (here : n.endpoint? s = some e)
    (waits : e.inbox.octets ≠ []) (limit : Nat) :
    n.receive s limit = (.ready (.ok (e.inbox.octets.take limit)),
      n.modify s ({ · with inbox := { front := e.inbox.octets.drop limit } })) := by
  obtain ⟨octet, more, waiting⟩ := List.exists_cons_of_ne_nil waits
  simp only [receive, here, waiting]

theorem endpoint?_close {s : Socket} {e : Endpoint} (there : n.endpoint? s.opposite = some e) :
    ∃ f, (n.close s).endpoint? s.opposite = some f ∧ f.inbox = e.inbox := by
  have ne : s.opposite ≠ s := fun same => s.ne_opposite same.symm
  simp only [close]
  split
  · rw [endpoint?_modify_of_ne _ _ ne, shutdown, endpoint?_modify, if_pos rfl, there]
    exact ⟨_, rfl, rfl⟩
  · rw [endpoint?_modify_of_ne _ _ ne, endpoint?_modify, if_pos rfl, there]
    exact ⟨_, rfl, rfl⟩

theorem load_le {s : Socket} {e : Endpoint} (here : n.endpoint? s = some e) :
    e.inbox.load ≤ n.load := by
  have sum : n.load =
      (n.connections.map fun c => c.dialled.inbox.load + c.accepted.inbox.load).sum := by
    simp only [load, List.sum_eq_foldl, List.foldl_map, Nat.add_assoc]
  obtain ⟨c, there, rfl⟩ := Option.map_eq_some_iff.mp here
  have part := List.le_sum_of_mem (List.mem_map_of_mem
    (f := fun c : Connection => c.dialled.inbox.load + c.accepted.inbox.load)
    (List.mem_of_getElem? there))
  rw [sum]
  refine Nat.le_trans ?_ part
  cases s.side with
  | dialled => exact Nat.le_add_right _ _
  | accepted => exact Nat.le_add_left _ _

theorem gatherFor_of_empty {s : Socket} {e : Endpoint} (here : n.endpoint? s = some e)
    (nothing : e.inbox.octets = []) (fuel count : Nat) : (n.gatherFor fuel s count).1 = [] := by
  cases fuel with
  | zero => rfl
  | succ fuel =>
      simp only [gatherFor, receive, here, nothing]
      split
      · rfl
      · cases e.ending with
        | none => rfl
        | some ending => cases ending <;> rfl

theorem drain_eq {s : Socket} {e : Endpoint} (here : n.endpoint? s = some e) :
    (n.drain s).1 = e.inbox.octets := by
  cases waiting : e.inbox.octets with
  | nil => exact gatherFor_of_empty here waiting ..
  | cons octet more =>
      have within : (octet :: more).length ≤ n.load := waiting ▸ load_le here
      obtain ⟨fuel, enough⟩ : ∃ fuel, n.load = fuel + 1 := ⟨n.load - 1, by simp at within; omega⟩
      have taken : (octet :: more).take n.load = octet :: more := List.take_of_length_le within
      have left : (octet :: more).drop n.load = [] := List.drop_of_length_le within
      have later : (n.modify s fun e => { e with inbox := { front := [] } }).endpoint? s =
          some { e with inbox := {} } := by
        rw [endpoint?_modify, if_pos rfl, here]
        rfl
      rw [drain, gather, enough, gatherFor, if_neg (by omega), ← enough,
        receive_of_waiting here (by simp [waiting]), waiting, taken, left]
      dsimp only
      rw [gatherFor_of_empty later Inbox.octets_empty, List.append_nil]

end Network

namespace CounterService

open Network

variable {n m : Network} {client : Socket} {l : Nat} {arrived : Bytes}

theorem serve_of_asks (cs : Counters) (asks : n.Asks l client arrived) (some_ : arrived ≠ []) :
    ∃ e, (serve cs l n).endpoint? client = some e ∧
      e.inbox.octets = Bytes.ofText (answerTo cs (resource arrived)) := by
  obtain ⟨e, there, rfl⟩ := asks.sent
  obtain ⟨c, here, nothing, held, unended⟩ := asks.listens
  obtain ⟨k, accepted, same⟩ := accept_of_next asks.next asks.accepts
  have across : (⟨client.connection, .accepted⟩ : Socket) = client.opposite := by
    obtain ⟨_, side⟩ := client
    cases asks.dialled
    rfl
  have unchanged (s : Socket) : k.endpoint? s = n.endpoint? s := by rw [endpoint?, same, endpoint?]
  rw [across] at accepted
  rw [← unchanged] at there here
  let a := k.modify client.opposite ({ · with inbox := { front := e.inbox.octets.drop readSize } })
  have receives : k.receive client.opposite readSize = (.ready (.ok (e.inbox.octets.take readSize)), a) :=
    receive_of_waiting there some_ readSize
  have hears : a.endpoint? client = some c := by
    rw [endpoint?_modify_of_ne _ _ client.ne_opposite, here]
  have read : answerRead? cs (e.inbox.octets.take readSize) =
      some (answerTo cs (resource e.inbox.octets)) := by
    have full : (e.inbox.octets.take readSize).isEmpty = false := by simp [readSize, some_]
    rw [answerRead?, full, resource_take]
    rfl
  let b := (a.send client.opposite (Bytes.ofText (answerTo cs (resource e.inbox.octets)))).2
  have answered : b.endpoint? client.opposite.opposite =
      some { c with inbox := c.inbox.push (Bytes.ofText (answerTo cs (resource e.inbox.octets))) } := by
    have open_ : a.endpoint? client.opposite.opposite = some c := by rwa [client.opposite_opposite]
    simp only [b, send_of_open open_ held unended (ofText_answerTo_ne_nil cs _)]
    rw [endpoint?_modify, if_pos rfl, open_]
    rfl
  have served : serve cs l n = b.close client.opposite := by
    simp only [serve, accepted, receives, read, Option.elim_some, b]
  obtain ⟨f, last, kept⟩ := endpoint?_close answered
  rw [client.opposite_opposite] at last
  exact ⟨f, served ▸ last, by rw [kept, Inbox.octets_push, nothing, List.nil_append]⟩

/-- What a client receives in the end who sends a request in segments, when the service gets to it
behind so many of its steps. -/
def received (cs : Counters) (l : Nat) (address : SocketAddress) (segments : List Bytes) (served : Nat)
    (n : Network) : Bytes :=
  match n.dial address with
  | (.error _, _) => []
  | (.ok client, n) =>
    let steps := segments.map ClientStep.send ++ [.finish]
    let n := serve cs l (clientSteps client n (steps.take served))
    ((clientSteps client n (steps.drop served)).drain client).1

theorem exchange_eq (cs : Counters) (l : Nat) (address : SocketAddress) (request : Bytes)
    (n : Network) : (exchange cs l address request n).1 = received cs l address [request] 2 n := by
  cases dials : n.dial address with
  | mk result m =>
      cases result with
      | error fault => simp only [exchange, received, dials]
      | ok client =>
          simp only [exchange, received, dials]
          rfl

theorem received_eq {address : SocketAddress} (cs : Counters)
    (dials : n.dial address = (.ok client, m)) (next : (m.queue l).head? = some client.connection)
    (accepts : m.failures.find? (·.1 == .accept) = none) (segments : List Bytes) (served : Nat)
    (some_ : (segments.take served).flatten ≠ []) :
    received cs l address segments served n =
      Bytes.ofText (answerTo cs (resource (segments.take served).flatten)) := by
  have asks := (goes_of_dial dials next accepts).asks segments served
  obtain ⟨e, here, octets⟩ := serve_of_asks cs asks some_
  simp only [received, dials]
  rw [drain_eq (e := e) (by rw [endpoint?_clientSteps, here]), octets]

/-- A client gets the answer that its request is due exactly if what has arrived when the service reads
holds the words that the request begins with, wherever the request is split and whenever the rest comes:
the counters, a sign of life, or a refusal where the request begins with neither words. When that breaks
off before, the client is refused. -/
theorem answered_as_due_iff {address : SocketAddress} (cs : Counters)
    (dials : n.dial address = (.ok client, m)) (next : (m.queue l).head? = some client.connection)
    (accepts : m.failures.find? (·.1 == .accept) = none) {request : Bytes} {segments : List Bytes}
    (split : segments.flatten = request) (full : [] ∉ segments) (some_ : request ≠ [])
    {served : Nat} (begun : 0 < served) :
    let got := received cs l address segments served n
    let arrived := (segments.take served).flatten
    let due := Bytes.ofText (answerTo cs (resource request))
    let refusal := Bytes.ofText (response "404 Not Found" "text/plain" "Not Found")
    let metrics := Bytes.ofText "GET /metrics"
    let health := Bytes.ofText "GET /health"
    (got = due ↔ (resource request).words.length ≤ arrived.length) ∧
      (arrived.length < (resource request).words.length → got = refusal) ∧
      (metrics <+: request → due = Bytes.ofText
        (response "200 OK" "text/plain; version=0.0.4; charset=utf-8" cs.expose)) ∧
      (health <+: request → due = Bytes.ofText (response "200 OK" "text/plain" "OK")) ∧
      (¬metrics <+: request → ¬health <+: request → due = refusal) := by
  intro got arrived due refusal metrics health
  have begins : arrived ≠ [] := by
    obtain ⟨first, rest, rfl⟩ : ∃ first rest, segments = first :: rest := by
      refine List.exists_cons_of_ne_nil ?_
      rintro rfl
      exact some_ split.symm
    obtain ⟨k, rfl⟩ : ∃ k, served = k + 1 := ⟨served - 1, by omega⟩
    have first_ : first ≠ [] := fun empty => full (empty ▸ List.mem_cons_self)
    exact List.append_ne_nil_of_left_ne_nil first_ _
  obtain ⟨more, rfl⟩ : ∃ more, request = arrived ++ more :=
    ⟨(segments.drop served).flatten, by rw [← List.flatten_append, List.take_append_drop, split]⟩
  have answered : got = Bytes.ofText (answerTo cs (resource arrived)) :=
    received_eq cs dials next accepts segments served begins
  have refused (short : arrived.length < (resource (arrived ++ more)).words.length) :
      got = refusal := by
    rw [answered, resource_of_short short]
    rfl
  refine ⟨⟨fun right => ?_, fun long => ?_⟩, refused, fun words => ?_, fun words => ?_,
    fun other neither => ?_⟩
  · by_contra short
    have known : resource (arrived ++ more) ≠ .unknown := by
      intro unknown
      rw [unknown] at short
      exact short (Nat.zero_le _)
    exact answerTo_ne_of_known cs known ((refused (Nat.lt_of_not_le short)).symm.trans right)
  · rw [answered, resource_of_long long]
  · have asks := resource_eq_of_prefix (r := .counters) words nofun
    simp only [due, asks]
    rfl
  · have asks := resource_eq_of_prefix (r := .health) words nofun
    simp only [due, asks]
    rfl
  · rcases resource_cases (arrived ++ more) with ⟨_, words⟩ | ⟨_, _, words⟩ | ⟨asks, _⟩
    · exact (other words).elim
    · exact (neither words).elim
    · simp only [due, asks]
      rfl

/-- A host where the service is the only one to listen, and nobody has dialled. -/
def quiet : Network := (({} : Network).listen MetricsEndpoint.standardAddress).2

def asking : Network := (quiet.dial MetricsEndpoint.standardAddress).2

/-- The words are split, but all of them have arrived when the service reads. The rest comes later. -/
theorem answered_as_due_iff_later :
    let cs := Counters.none.recordSession 3001
    let segments := ["GET /heal", "th", " HTTP/1.1"].map Bytes.ofText
    quiet.dial MetricsEndpoint.standardAddress = (.ok ⟨0, .dialled⟩, asking) ∧
      received cs 0 MetricsEndpoint.standardAddress segments 2 quiet =
        Bytes.ofText (response "200 OK" "text/plain" "OK") := by
  intro cs segments
  have dials : quiet.dial MetricsEndpoint.standardAddress = (.ok ⟨0, .dialled⟩, asking) := rfl
  have split : segments.flatten = Bytes.ofText "GET /health HTTP/1.1" := by decide +kernel
  obtain ⟨due, _, _, health, _⟩ := answered_as_due_iff cs (l := 0) dials rfl rfl split
    (by decide +kernel) (by decide +kernel) Nat.two_pos
  exact ⟨dials, (due.mpr (by decide +kernel)).trans (health (by decide +kernel))⟩

/-- One request, two answers: in one piece it gets the counters, and in two pieces a refusal. -/
theorem answer_hangs_on_split :
    let cs := Counters.none.recordSession 3001
    let begins := Bytes.ofText "GET /met"
    let rest := Bytes.ofText "rics HTTP/1.1"
    let counters := Bytes.ofText
      (response "200 OK" "text/plain; version=0.0.4; charset=utf-8" cs.expose)
    received cs 0 MetricsEndpoint.standardAddress [begins ++ rest] 1 quiet = counters ∧
      received cs 0 MetricsEndpoint.standardAddress [begins, rest] 1 quiet =
        Bytes.ofText (response "404 Not Found" "text/plain" "Not Found") ∧
      Bytes.ofText (response "404 Not Found" "text/plain" "Not Found") ≠ counters := by
  intro cs begins rest counters
  have dials : quiet.dial MetricsEndpoint.standardAddress = (.ok ⟨0, .dialled⟩, asking) := rfl
  have whole : resource [begins ++ rest].flatten = .counters := by decide +kernel
  have part : resource [begins].flatten = .unknown := by decide +kernel
  refine ⟨?_, ?_, answerTo_ne_of_known cs (r := .counters) nofun⟩
  · rw [received_eq cs dials rfl rfl [begins ++ rest] 1 (by decide +kernel)]
    exact congrArg (fun r => Bytes.ofText (answerTo cs r)) whole
  · rw [received_eq cs dials rfl rfl [begins, rest] 1 (by decide +kernel)]
    exact congrArg (fun r => Bytes.ofText (answerTo cs r)) part

end CounterService

end Wiretap
