import MockSsh.Session

/-!
A turn in two parts: it reads, and then it does what is left to do with what was read. `greet` and
`answerRead` are the second parts of the first turn and of the later ones. They only write, so they look
at nothing that is still to come: on a stream that was changed in a way which writing does not notice
they do the same (`greet_changed`, `answerRead_changed`).
-/
namespace MockSsh

/-! ## Changes that writing does not notice -/

/-- A change of streams that writing does not notice: it is there after a write as it was before. -/
structure Stream.Unseen (change : Stream → Stream) : Prop where
  write : ∀ stream bytes, (change stream).write bytes
    = ((stream.write bytes).1, change (stream.write bytes).2)
  flush : ∀ stream, (change stream).flush = (stream.flush.1, change stream.flush.2)

/-- Writing notices neither what is still to come nor what stands in front of it. -/
theorem Stream.unseen_input (chunks : List Bytes → List Bytes)
    (ending : Option StreamFault → Option StreamFault) (sent : Bytes) :
    Unseen fun stream => { stream with
      chunks := chunks stream.chunks
      ending := ending stream.ending
      written := sent ++ stream.written } where
  write stream bytes := by
    unfold write
    cases stream.room with
    | none => simp only [List.append_assoc]
    | some room =>
      by_cases hfits : bytes.length ≤ room
      · simp only [if_pos hfits, List.append_assoc]
      · simp only [if_neg hfits, List.append_assoc]
  flush _ := rfl

namespace Transport

/-- The same transport over a changed stream, with more bytes counted. -/
def changed (transport : Transport) (change : Stream → Stream) (counted : Nat) : Transport :=
  { transport with
    stream := change transport.stream
    bytesRead := transport.bytesRead + counted }

variable {change : Stream → Stream} (h : Stream.Unseen change) (transport : Transport)
  (counted : Nat)
include h

theorem writeBytes_changed (bytes : Bytes) :
    (transport.changed change counted).writeBytes bytes
      = ((transport.writeBytes bytes).1,
          (transport.writeBytes bytes).2.changed change counted) := by
  unfold writeBytes
  rw [show (transport.changed change counted).stream = change transport.stream from rfl, h.write]
  generalize transport.stream.write bytes = written
  obtain ⟨_ | fault, after⟩ := written
  · simp only [h.flush]
    generalize after.flush = flushed
    obtain ⟨_ | fault, last⟩ := flushed <;> rfl
  · rfl

theorem writePacket_changed (packet : Packet) :
    (transport.changed change counted).writePacket packet
      = ((transport.writePacket packet).1,
          (transport.writePacket packet).2.changed change counted) := by
  unfold writePacket
  rw [writeBytes_changed h]
  generalize transport.writeBytes packet.encode = written
  obtain ⟨result, after⟩ := written
  cases result <;> rfl

theorem sendReplies_changed (peer : String) (replies : List Packet) :
    Session.sendReplies peer replies (transport.changed change counted) =
      let sent := Session.sendReplies peer replies transport
      (sent.1, sent.2.1.changed change counted, sent.2.2) := by
  induction replies generalizing transport with
  | nil => rfl
  | cons packet later ih =>
    unfold Session.sendReplies
    rw [writePacket_changed h]
    generalize transport.writePacket packet = written
    obtain ⟨result, after⟩ := written
    cases result with
    | error fault => rfl
    | ok _ => simp only [ih]

end Transport

namespace Session

variable {κ : Type}

/-- The same session over a changed stream, with more bytes counted. -/
def changed (session : Session κ) (change : Stream → Stream) (counted : Nat) : Session κ :=
  { session with transport := session.transport.changed change counted }

/-- The same turn over a changed stream, with more bytes counted. -/
def Turn.changed (turn : Turn κ) (change : Stream → Stream) (counted : Nat) : Turn κ :=
  { turn with session := turn.session.changed change counted }

/-! ## The two parts of a turn -/

/-- The rest of the first turn, once the peer's line was read, or nothing was, or a fault was met. -/
def greet (session : Session κ) : Except Fault (Option String) → Turn κ
  | .error fault => .failed session fault []
  | .ok none => ⟨some (.ok .peerClosed), session, []⟩
  | .ok (some line) =>
    let events := [Event.versionsExchanged session.connection.peer line (softwareOf line)]
    match session.transport.writeIdentification (ownLine session.config) with
    | (.error fault, transport) =>
      .failed { session with transport, peerLine := some line } fault events
    | (.ok (), transport) =>
      ⟨none, { session with transport, peerLine := some line, state := .packetLoop }, events⟩

theorem greet_changed {change : Stream → Stream} (h : Stream.Unseen change) (session : Session κ)
    (counted : Nat) (read : Except Fault (Option String)) :
    (session.changed change counted).greet read = (session.greet read).changed change counted := by
  rcases read with fault | _ | line
  · rfl
  · rfl
  · unfold greet
    simp only [changed, Transport.writeIdentification, Transport.writeBytes_changed h]
    generalize session.transport.writeBytes _ = written
    obtain ⟨result, after⟩ := written
    cases result <;> rfl

theorem exchangeVersions_eq_greet (session : Session κ) :
    session.exchangeVersions =
      let read := session.transport.readIdentification session.config.maxIdentificationLength
      greet { session with transport := read.2 } read.1 := by
  unfold exchangeVersions
  generalize session.transport.readIdentification _ = given
  obtain ⟨read, after⟩ := given
  rcases read with fault | _ | line <;> rfl

variable [KeyExchange κ]

/-- The rest of a later turn, once a packet was read, or nothing was, or a fault was met. -/
def answerRead (session : Session κ) : Except Fault (Option Inbound) → Turn κ
  | .error fault => .failed session fault []
  | .ok none => ⟨some (.ok .peerClosed), session, []⟩
  | .ok (some inbound) => session.answerPacket inbound

theorem answerPacket_changed {change : Stream → Stream} (h : Stream.Unseen change)
    (session : Session κ) (counted : Nat) (inbound : Inbound) :
    (session.changed change counted).answerPacket inbound
      = (session.answerPacket inbound).changed change counted := by
  unfold answerPacket
  simp only [changed, Transport.sendReplies_changed h]
  cases (session.dispatcher.dispatch session.connection inbound).result with
  | error fault => rfl
  | ok answer =>
    simp only
    generalize sendReplies _ answer.replies session.transport = sent
    obtain ⟨result, after, events⟩ := sent
    cases result <;> rfl

theorem answerRead_changed {change : Stream → Stream} (h : Stream.Unseen change)
    (session : Session κ) (counted : Nat) (read : Except Fault (Option Inbound)) :
    (session.changed change counted).answerRead read
      = (session.answerRead read).changed change counted := by
  rcases read with fault | _ | inbound
  · rfl
  · rfl
  · exact answerPacket_changed h session counted inbound

theorem exchangePacket_eq_answerRead (session : Session κ) :
    session.exchangePacket =
      let read := session.transport.readPacket session.config.maxPacketLength
      answerRead { session with transport := read.2 } read.1 := by
  unfold exchangePacket
  generalize session.transport.readPacket _ = given
  obtain ⟨read, after⟩ := given
  rcases read with fault | _ | inbound <;> rfl

theorem turn_of_versionExchange {session : Session κ} (h : session.state = .versionExchange) :
    session.turn =
      let read := session.transport.readIdentification session.config.maxIdentificationLength
      greet { session with transport := read.2 } read.1 := by
  rw [← exchangeVersions_eq_greet, turn, h]

theorem turn_of_packetLoop {session : Session κ} (h : session.state = .packetLoop) :
    session.turn =
      let read := session.transport.readPacket session.config.maxPacketLength
      answerRead { session with transport := read.2 } read.1 := by
  rw [← exchangePacket_eq_answerRead, turn, h]

end Session
end MockSsh
