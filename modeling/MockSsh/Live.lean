import MockSsh.Session

/-!
A session whose input is still arriving. A turn can be taken as soon as the bytes that it reads have
come: a whole line, or as much of one as the limit allows; a whole frame, or a header that is refused
on its own. Until then the session waits. What a turn writes is sent before anything else happens.

`Live.turn?` says what is to be done next; a server asks it again and again, with what arrives on a
socket. `Live.attend` does so with arrivals that are given as a list.
-/
namespace MockSsh

/-- Whether the bytes hold a line, or are as many as a line may have. -/
def lineReady (limit : Nat) (arrived : Bytes) : Bool :=
  arrived.contains Transport.lineFeed || max 1 limit ≤ arrived.length

/-- Whether the bytes hold a frame, or a header that is refused on its own. -/
def frameReady (limit : Nat) : Bytes → Bool
  | a :: b :: c :: d :: padding :: body =>
    let header := Header.ofBytes a b c d padding
    limit < header.total.toNat || header.bodyLength ≤ body.length
  | _ => false

namespace Session

variable {κ : Type}

/-- Whether what has arrived is enough for the next turn. -/
def ready (session : Session κ) : Bool :=
  let arrived := session.transport.stream.pending
  match session.state with
  | .closed => true
  | .versionExchange => lineReady session.config.maxIdentificationLength arrived
  | .packetLoop => frameReady session.config.maxPacketLength arrived

/-- The session with a change to its stream. -/
def onStream (session : Session κ) (change : Stream → Stream) : Session κ :=
  { session with
    transport := { session.transport with stream := change session.transport.stream } }

/-- The session after more bytes have arrived. -/
def deliver (session : Session κ) (bytes : Bytes) : Session κ :=
  session.onStream fun stream => { stream with chunks := stream.chunks ++ [bytes] }

/-- The session after its input has ended, in an orderly way or with a failure. -/
def endInput (session : Session κ) (ending : Option StreamFault) : Session κ :=
  session.onStream fun stream => { stream with ending }

/-- The bytes to be sent, and the session after they are. -/
def drain (session : Session κ) : Bytes × Session κ :=
  (session.transport.stream.written, session.onStream fun stream => { stream with written := [] })

end Session

/-- A session, and whether its input has ended. -/
structure Live (κ : Type) where
  session : Session κ
  ended : Bool

namespace Live

/-- What arrives from the peer. -/
inductive Arrival
  | bytes (bytes : Bytes)
  | ended (fault : Option StreamFault)
deriving DecidableEq, Repr

variable {κ : Type}

/-- A session to which nothing has arrived. -/
def fresh (config : Config) (peer : String) (exchange : κ) : Live κ :=
  ⟨.fresh { Stream.ofInput [] with chunks := [] } config peer exchange, false⟩

/-- The session after an arrival. -/
def receive (live : Live κ) : Arrival → Live κ
  | .bytes bytes => ⟨live.session.deliver bytes, live.ended⟩
  | .ended fault => ⟨live.session.endInput fault, true⟩

variable [KeyExchange κ]

/-- The next turn, unless the session has to wait for it. -/
def turn? (live : Live κ) : Option (Session.Turn κ) :=
  if live.ended || live.session.ready then some live.session.turn else none

theorem turn_of_turn? {live : Live κ} {turn : Session.Turn κ} (h : live.turn? = some turn) :
    turn = live.session.turn := by
  unfold turn? at h
  split at h
  · exact (Option.some.inj h).symm
  · cases h

/-- What came of some arrivals: how the session ended, unless it still waits, what was sent, and the
arrivals that were not asked for. -/
structure Attended (κ : Type) where
  result : Option (Except Fault SessionEnd)
  session : Session κ
  sent : Bytes
  events : List Event
  left : List Arrival

/-- Takes turns as long as none has to be waited for, and the arrivals one by one where one has. -/
def attend (live : Live κ) (arrivals : List Arrival) : Attended κ :=
  match _ : live.turn? with
  | none =>
    match arrivals with
    | [] => ⟨none, live.session, [], [], []⟩
    | arrival :: rest => (live.receive arrival).attend rest
  | some turn =>
    let drained := turn.session.drain
    match _ : turn.ended with
    | some result => ⟨some result, drained.2, drained.1, turn.events, arrivals⟩
    | none =>
      let later := attend ⟨drained.2, live.ended⟩ arrivals
      { later with sent := drained.1 ++ later.sent, events := turn.events ++ later.events }
termination_by (arrivals.length, live.session.transport.stream.unread)
decreasing_by
  · exact Prod.Lex.left _ _ (Nat.lt_succ_self _)
  · cases turn_of_turn? ‹_›
    exact Prod.Lex.right _ (live.session.unread_turn ‹_›)

/-- Induction on the waits and turns of the loop. -/
@[elab_as_elim]
theorem attend_induction {motive : Live κ → List Arrival → Prop}
    (idle : ∀ live : Live κ, live.turn? = none → motive live [])
    (waits : ∀ (live : Live κ) arrival rest, live.turn? = none →
      motive (live.receive arrival) rest → motive live (arrival :: rest))
    (ended : ∀ (live : Live κ) arrivals turn result, live.turn? = some turn →
      turn.ended = some result → motive live arrivals)
    (goesOn : ∀ (live : Live κ) arrivals turn, live.turn? = some turn → turn.ended = none →
      motive ⟨turn.session.drain.2, live.ended⟩ arrivals → motive live arrivals)
    (live : Live κ) (arrivals : List Arrival) : motive live arrivals :=
  attend.induct motive idle (fun live hwait arrival rest => waits live arrival rest hwait)
    (fun live arrivals turn hturn result => ended live arrivals turn result hturn) goesOn live arrivals

end Live
end MockSsh
