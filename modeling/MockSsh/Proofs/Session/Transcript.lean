import MockSsh.Session
import MockSsh.Proofs.Stream.Frames

/-!
A conversation as a function of the peer's bytes. `Transcript.ofBytes` cuts off the identification
line, then one frame after the other, and notes down the answers in their order; it knows no stream,
no counter and no session.
-/
namespace MockSsh

variable {κ : Type}

/-- What a conversation over given bytes comes to. -/
structure Transcript (κ : Type) where
  ended : Except Fault SessionEnd
  /-- The peer's identification line, once it was taken. -/
  line : Option String
  /-- The number of packets taken. -/
  packets : Nat
  replies : List Packet
  /-- The bytes that were not looked at. -/
  rest : Bytes
  connection : Connection
  dispatcher : Dispatcher κ
  events : List Event

namespace Transcript

/-- A conversation that ends without another packet. -/
def stopped (ended : Except Fault SessionEnd) (packets : Nat) (rest : Bytes)
    (connection : Connection) (dispatcher : Dispatcher κ) : Transcript κ :=
  { ended, line := none, packets, replies := [], rest, connection, dispatcher, events := [] }

/-- A conversation in front of which a packet was answered. -/
def answered (later : Transcript κ) (replies : List Packet) (events : List Event) : Transcript κ :=
  { later with replies := replies ++ later.replies, events := events ++ later.events }

/-- A conversation in front of which lines were exchanged. -/
def greeted (later : Transcript κ) (peer line : String) : Transcript κ :=
  { later with
    line := some line
    events := .versionsExchanged peer line (Session.softwareOf line) :: later.events }

variable [KeyExchange κ]

/-- The packets in the bytes, answered in their order. `index` packets have come before: that is the
sequence number of the next one, modulo 2^32. -/
def ofPackets (limit : Nat) (dispatcher : Dispatcher κ) (connection : Connection) (index : Nat)
    (input : Bytes) : Transcript κ :=
  match _ : cutFrame limit input with
  | .incomplete => stopped (.ok .peerClosed) index [] connection dispatcher
  | .refused fault rest => stopped (.error fault) index rest connection dispatcher
  | .packet packet rest =>
    let sequence := UInt32.ofNat index
    let outcome := dispatcher.dispatch connection ⟨sequence, packet⟩
    let received := Event.received connection.peer sequence packet ++ outcome.events
    let stop (ended : Except Fault SessionEnd) : Transcript κ :=
      stopped ended (index + 1) rest outcome.connection outcome.dispatcher
    match outcome.result with
    | .error fault => (stop (.error fault)).answered [] received
    | .ok answer =>
      let later := match answer.next with
        | .proceed => ofPackets limit outcome.dispatcher outcome.connection (index + 1) rest
        | .peerDisconnected _ => stop (.ok .peerDisconnected)
        | .policyDisconnect => stop (.ok .policyDisconnect)
      later.answered answer.replies
        (received ++ answer.replies.flatMap (Event.sent connection.peer))
termination_by input.length
decreasing_by exact length_cutFrame ‹_›

/-- The line that the server sends. -/
def greeting (config : Config) : Bytes :=
  Utf8.encode ("SSH-2.0-" ++ config.serverVersion) ++ [0x0D, 0x0A]

/-- A whole conversation: the identification line, and then the packets. -/
def ofBytes (config : Config) (peer : String) (exchange : κ) (input : Bytes) : Transcript κ :=
  let connection := Connection.fresh config.channelPolicy peer
  let dispatcher := Dispatcher.ofConfig config exchange
  match cutLine config.maxIdentificationLength input with
  | .incomplete => stopped (.ok .peerClosed) 0 [] connection dispatcher
  | .tooLong length rest =>
    stopped (.error (.identificationTooLong length)) 0 rest connection dispatcher
  | .line text rest =>
    (ofPackets config.maxPacketLength dispatcher connection 0 rest).greeted peer
      (identificationText text)

/-- What the server writes: nothing without a line of the peer, else its own line and the replies. -/
def written (told : Transcript κ) (config : Config) : Bytes :=
  match told.line with
  | none => []
  | some _ => greeting config ++ told.replies.flatMap Packet.encode

/-- How often the server pushes out what it wrote: after its line and after every reply. -/
def flushes (told : Transcript κ) : Nat :=
  match told.line with
  | none => 0
  | some _ => told.replies.length + 1

omit [KeyExchange κ] in
theorem written_eq_nil_iff (told : Transcript κ) (config : Config) :
    told.written config = [] ↔ told.flushes = 0 := by
  unfold written flushes greeting
  cases told.line with
  | none => simp
  | some line => simp

/-- The report of the conversation, unless a fault ended it. -/
def report (told : Transcript κ) : Except Fault Report :=
  told.ended.map fun ended =>
    { ended
      packetsReceived := UInt32.ofNat told.packets
      packetsSent := UInt32.ofNat told.replies.length
      authenticated := told.connection.authenticated
      peerLine := told.line }

/-! ## Equations of the transcript -/

section Equations

variable {limit : Nat} {dispatcher : Dispatcher κ} {connection : Connection} {index : Nat}
  {input : Bytes}

theorem ofPackets_of_incomplete (h : cutFrame limit input = .incomplete) :
    ofPackets limit dispatcher connection index input
      = stopped (.ok .peerClosed) index [] connection dispatcher := by
  rw [ofPackets]
  split <;> simp_all

theorem ofPackets_of_refused {fault : Fault} {rest : Bytes}
    (h : cutFrame limit input = .refused fault rest) :
    ofPackets limit dispatcher connection index input
      = stopped (.error fault) index rest connection dispatcher := by
  rw [ofPackets]
  split <;> simp_all

theorem ofPackets_of_packet {packet : Packet} {rest : Bytes}
    (h : cutFrame limit input = .packet packet rest) :
    ofPackets limit dispatcher connection index input =
      let sequence := UInt32.ofNat index
      let outcome := dispatcher.dispatch connection ⟨sequence, packet⟩
      let received := Event.received connection.peer sequence packet ++ outcome.events
      let stop (ended : Except Fault SessionEnd) : Transcript κ :=
        stopped ended (index + 1) rest outcome.connection outcome.dispatcher
      match outcome.result with
      | .error fault => (stop (.error fault)).answered [] received
      | .ok answer =>
        let later := match answer.next with
          | .proceed => ofPackets limit outcome.dispatcher outcome.connection (index + 1) rest
          | .peerDisconnected _ => stop (.ok .peerDisconnected)
          | .policyDisconnect => stop (.ok .policyDisconnect)
        later.answered answer.replies
          (received ++ answer.replies.flatMap (Event.sent connection.peer)) := by
  rw [ofPackets]
  split
  · next hcut => cases hcut.symm.trans h
  · next hcut => cases hcut.symm.trans h
  · next hcut =>
    cases hcut.symm.trans h
    rfl

end Equations

end Transcript

end MockSsh
