import MockSsh.Transport

/-!
A conversation from the first byte to the last: the peer's identification line, the server's own,
then packet by packet a read, its answer, and the replies, until the peer leaves or something fails.

A conversation is a chain of turns. `converse` takes turns until one of them ends it, and stops
because a turn that goes on has taken something from the stream (`unread_turn`).
-/
namespace MockSsh

/-- Where a session stands. -/
inductive SessionState
  | versionExchange
  | packetLoop
  | closed
deriving DecidableEq, Repr

/-- How a session ended without a fault. -/
inductive SessionEnd
  | peerClosed
  | peerDisconnected
  | policyDisconnect
deriving DecidableEq, Repr

/-- The end in words. -/
def SessionEnd.label : SessionEnd → String
  | peerClosed => "peer closed"
  | peerDisconnected => "peer disconnected"
  | policyDisconnect => "disconnected by policy"

/-- A session over a stream. -/
structure Session (κ : Type) where
  transport : Transport
  dispatcher : Dispatcher κ
  connection : Connection
  config : Config
  state : SessionState
  /-- The peer's identification line, once it was read. -/
  peerLine : Option String

/-- The summary of a session that ended without a fault. -/
structure Report where
  ended : SessionEnd
  packetsReceived : UInt32
  packetsSent : UInt32
  authenticated : Bool
  peerLine : Option String
deriving DecidableEq, Repr

namespace Session

variable {κ : Type}

/-- A session in which nothing has happened. -/
def fresh (stream : Stream) (config : Config) (peer : String) (exchange : κ) : Session κ where
  transport := .ofStream stream
  dispatcher := .ofConfig config exchange
  connection := .fresh config.channelPolicy peer
  config
  state := .versionExchange
  peerLine := none

/-- One step of a session: how it ended, unless it goes on; the session afterwards; the events. -/
structure Turn (κ : Type) where
  ended : Option (Except Fault SessionEnd)
  session : Session κ
  events : List Event

/-- Ends a turn at a fault. -/
def Turn.failed (session : Session κ) (fault : Fault) (events : List Event) : Turn κ :=
  ⟨some (.error fault), session, events⟩

/-- The software that an identification line names, if it can be read. -/
def softwareOf (line : String) : Option String :=
  match Identification.parse line with
  | .ok id => some id.software
  | .error _ => none

/-- The line that the server answers with. -/
def ownLine (config : Config) : Bytes :=
  (Identification.ofSoftware config.serverVersion none).wire

/-- The first turn: the peer's line, whatever it says, and then the server's. -/
def exchangeVersions (session : Session κ) : Turn κ :=
  match session.transport.readIdentification session.config.maxIdentificationLength with
  | (.error fault, transport) => .failed { session with transport } fault []
  | (.ok none, transport) => ⟨some (.ok .peerClosed), { session with transport }, []⟩
  | (.ok (some line), transport) =>
    let events := [Event.versionsExchanged session.connection.peer line (softwareOf line)]
    match transport.writeIdentification (ownLine session.config) with
    | (.error fault, transport) =>
      .failed { session with transport, peerLine := some line } fault events
    | (.ok (), transport) =>
      ⟨none, { session with transport, peerLine := some line, state := .packetLoop }, events⟩

theorem unread_exchangeVersions (session : Session κ)
    (h : session.exchangeVersions.ended = none) :
    session.exchangeVersions.session.transport.stream.unread
      < session.transport.stream.unread := by
  unfold exchangeVersions at h ⊢
  split at h
  · simp [Turn.failed] at h
  · simp at h
  · next line transport hread =>
    have hless := Transport.unread_readIdentification hread
    have hwrite := Transport.unread_writeBytes transport (ownLine session.config)
    simp only [Transport.writeIdentification] at h ⊢
    split at h
    · simp [Turn.failed] at h
    · next written hwritten =>
      rw [hwritten] at hwrite
      simpa [hwritten, hwrite] using hless

/-- Sends replies in order, up to the first that fails. -/
def sendReplies (peer : String) :
    List Packet → Transport → Except Fault Unit × Transport × List Event
  | [], transport => (.ok (), transport, [])
  | packet :: rest, transport =>
    match transport.writePacket packet with
    | (.error fault, transport) => (.error fault, transport, [])
    | (.ok (), transport) =>
      let (result, transport, events) := sendReplies peer rest transport
      (result, transport, Event.sent peer packet ++ events)

theorem unread_sendReplies (peer : String) (replies : List Packet) (transport : Transport) :
    (sendReplies peer replies transport).2.1.stream.unread = transport.stream.unread := by
  induction replies generalizing transport with
  | nil => rfl
  | cons packet rest ih =>
    have hpacket := transport.unread_writePacket packet
    unfold sendReplies
    split
    · next h => simpa [h] using hpacket
    · next h => simpa [h, ih] using hpacket

/-- How the session ends after the replies, unless it goes on. -/
def endAfter : Next → Option (Except Fault SessionEnd)
  | .proceed => none
  | .peerDisconnected _ => some (.ok .peerDisconnected)
  | .policyDisconnect => some (.ok .policyDisconnect)

variable [KeyExchange κ]

/-- Answers a packet that was read. -/
def answerPacket (session : Session κ) (inbound : Inbound) : Turn κ :=
  let peer := session.connection.peer
  let outcome := session.dispatcher.dispatch session.connection inbound
  let session :=
    { session with connection := outcome.connection, dispatcher := outcome.dispatcher }
  let events := Event.received peer inbound.sequence inbound.packet ++ outcome.events
  match outcome.result with
  | .error fault => .failed session fault events
  | .ok answer =>
    let (result, transport, sent) := sendReplies peer answer.replies session.transport
    let session := { session with transport }
    match result with
    | .error fault => .failed session fault (events ++ sent)
    | .ok () => ⟨endAfter answer.next, session, events ++ sent⟩

/-- A later turn: a packet and its replies. -/
def exchangePacket (session : Session κ) : Turn κ :=
  match session.transport.readPacket session.config.maxPacketLength with
  | (.error fault, transport) => .failed { session with transport } fault []
  | (.ok none, transport) => ⟨some (.ok .peerClosed), { session with transport }, []⟩
  | (.ok (some inbound), transport) => answerPacket { session with transport } inbound

theorem unread_answerPacket (session : Session κ) (inbound : Inbound) :
    (session.answerPacket inbound).session.transport.stream.unread
      = session.transport.stream.unread := by
  unfold answerPacket
  simp only
  split
  · rfl
  · next answer _ =>
    have hsent := unread_sendReplies session.connection.peer answer.replies session.transport
    split <;> exact hsent

theorem unread_exchangePacket (session : Session κ)
    (h : session.exchangePacket.ended = none) :
    session.exchangePacket.session.transport.stream.unread < session.transport.stream.unread := by
  unfold exchangePacket at h ⊢
  split at h
  · simp [Turn.failed] at h
  · simp at h
  · next inbound transport hread =>
    simpa [unread_answerPacket] using Transport.unread_readPacket hread

/-- The next turn, whichever it is. A closed session has none. -/
def turn (session : Session κ) : Turn κ :=
  match session.state with
  | .closed => .failed session (.protocol .sessionClosed) []
  | .versionExchange => session.exchangeVersions
  | .packetLoop => session.exchangePacket

/-- A turn after which the session goes on has taken something from the stream. -/
theorem unread_turn (session : Session κ) (h : session.turn.ended = none) :
    session.turn.session.transport.stream.unread < session.transport.stream.unread := by
  unfold turn at h ⊢
  cases hstate : session.state <;> simp only [hstate] at h ⊢
  · exact unread_exchangeVersions session h
  · exact unread_exchangePacket session h
  · simp [Turn.failed] at h

/-- A conversation that has come to its end. -/
structure Finished (κ : Type) where
  result : Except Fault SessionEnd
  session : Session κ
  events : List Event

/-- Takes turns until one ends the session. -/
def converse (session : Session κ) : Finished κ :=
  let turn := session.turn
  match _ : turn.ended with
  | some result => ⟨result, turn.session, turn.events⟩
  | none =>
    let rest := converse turn.session
    { rest with events := turn.events ++ rest.events }
termination_by session.transport.stream.unread
decreasing_by exact unread_turn session ‹_›

/-- Induction on the turns that a conversation takes. -/
@[elab_as_elim]
theorem turn_induction {motive : Session κ → Prop}
    (ended : ∀ session result, session.turn.ended = some result → motive session)
    (goesOn : ∀ session, session.turn.ended = none → motive session.turn.session → motive session)
    (session : Session κ) : motive session :=
  converse.induct motive ended goesOn session

theorem converse_of_ended {session : Session κ} {result : Except Fault SessionEnd}
    (h : session.turn.ended = some result) :
    session.converse = ⟨result, session.turn.session, session.turn.events⟩ := by
  rw [converse]
  split <;> simp_all

theorem converse_of_goes_on {session : Session κ} (h : session.turn.ended = none) :
    session.converse = ⟨session.turn.session.converse.result,
      session.turn.session.converse.session,
      session.turn.events ++ session.turn.session.converse.events⟩ := by
  rw [converse]
  split <;> simp_all

/-- A run that is over: its report or fault, the session afterwards, and the events. -/
structure Run (κ : Type) where
  result : Except Fault Report
  session : Session κ
  events : List Event

/-- The summary of the session as it stands. -/
def report (session : Session κ) (ended : SessionEnd) : Report where
  ended
  packetsReceived := session.transport.packetsReceived
  packetsSent := session.transport.packetsSent
  authenticated := session.connection.authenticated
  peerLine := session.peerLine

/-- Leaves the session: no channel stays open and the stream is shut down, whatever went before. A
failure of the shutdown is only told. -/
def leave (session : Session κ) : Session κ × List Event :=
  let connection := { session.connection with channels := session.connection.channels.clear }
  let (result, transport) := session.transport.shutdown
  let events := match result with
    | .error fault => [Event.shutdownFailed connection.peer fault]
    | .ok () => []
  ({ session with connection, transport, state := .closed }, events)

/-- Runs the session to its end and leaves it. -/
def run (session : Session κ) : Run κ :=
  let finished := session.converse
  let (session, events) := finished.session.leave
  ⟨finished.result.map session.report, session, finished.events ++ events⟩

end Session

/-- The last event of a connection: how it ended. -/
def Event.ofEnd (peer : String) : Except Fault Report → Event
  | .ok report => .connectionClosed peer report.ended.label report.packetsReceived
      report.packetsSent
  | .error fault => .connectionAborted peer fault

/-- What a connection comes to: the report, unless a fault ended it; the stream; the events. -/
structure Served where
  report : Option Report
  stream : Stream
  events : List Event

/-- Serves one connection from its first byte to its last. A fault goes no further than the log. -/
def serveStream (stream : Stream) (config : Config) (peer : String) : Served :=
  let run := (Session.fresh stream config peer Cleartext.fresh).run
  ⟨run.result.toOption, run.session.transport.stream,
    .connectionAccepted peer :: run.events ++ [.ofEnd peer run.result]⟩

end MockSsh
