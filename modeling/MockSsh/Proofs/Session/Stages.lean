import MockSsh.Proofs.Session.Login
import MockSsh.Proofs.Session.Policies

/-!
A conversation as the sessions between its turns. What a conversation takes is what its turns take,
one after the other (`decoded_eq`). A turn takes a packet, which gets the next number, and answers
it (`Takes`); or the peer's line (`Greets`); or nothing, and then it is the last (`Stops`).
`turn_cases` says that there is no fourth kind.
-/
namespace MockSsh

variable {κ : Type}

/-! ## What was written without a fault -/

/-- The packets that were written without a fault. -/
def Writes.delivered (writes : Writes) : List Packet :=
  (writes.filter (·.2.isOk)).map Prod.fst

theorem Writes.delivered_append (writes later : Writes) :
    Writes.delivered (writes ++ later) = Writes.delivered writes ++ Writes.delivered later := by
  rw [delivered, List.filter_append, List.map_append]
  rfl

namespace Transport

/-- A write moves nothing that counts what is received. -/
theorem packetsReceived_writeBytes (transport : Transport) (bytes : Bytes) :
    (transport.writeBytes bytes).2.packetsReceived = transport.packetsReceived := by
  rcases transport.writeBytes_cases bytes with ⟨fault, hwrite⟩ | hwrite <;> rw [hwrite]

theorem packetsReceived_sendReplies (transport : Transport) (peer : String)
    (packets : List Packet) :
    (Session.sendReplies peer packets transport).2.1.packetsReceived
      = transport.packetsReceived := by
  induction packets generalizing transport with
  | nil => rfl
  | cons packet rest ih =>
    rw [Session.sendReplies]
    rcases transport.writePacket_cases packet with ⟨cause, hwrite⟩ | hwrite
    · rw [hwrite]
    · rw [hwrite]
      exact ih _

/-- What is told of replies is told of those that were delivered. -/
theorem events_sendReplies (transport : Transport) (peer : String) (packets : List Packet) :
    (Session.sendReplies peer packets transport).2.2
      = (Writes.delivered (transport.writes packets)).flatMap (Event.sent peer) := by
  induction packets generalizing transport with
  | nil => rfl
  | cons packet rest ih =>
    rw [Session.sendReplies, writes]
    rcases transport.writePacket_cases packet with ⟨cause, hwrite⟩ | hwrite
    · rw [hwrite]
      rfl
    · rw [hwrite]
      simp only [ih]
      rfl

/-- Where every write is taken whole, every packet is delivered. -/
theorem writes_of_accepting {transport : Transport} (h : transport.stream.Accepting)
    (packets : List Packet) : transport.writes packets = packets.map fun packet => (packet, .ok ()) := by
  induction packets generalizing transport with
  | nil => rfl
  | cons packet rest ih =>
    have hrest : ({ transport.wrote packet.encode with
        packetsSent := transport.packetsSent + 1 } : Transport).stream.Accepting :=
      ⟨h.room, h.flush⟩
    rw [writes, writePacket_of_accepting h]
    exact congrArg (_ :: ·) (ih hrest)

end Transport

namespace Session

variable [KeyExchange κ]

/-! ## Stages -/

/-- The session before each of the turns of its conversation. -/
def stages (session : Session κ) : List (Session κ) :=
  let turn := session.turn
  match _ : turn.ended with
  | some _ => [session]
  | none => session :: stages turn.session
termination_by session.transport.stream.unread
decreasing_by exact unread_turn session ‹_›

theorem stages_of_ended {session : Session κ} {result : Except Fault SessionEnd}
    (h : session.turn.ended = some result) : session.stages = [session] := by
  rw [stages]
  split <;> simp_all

theorem stages_of_goes_on {session : Session κ} (h : session.turn.ended = none) :
    session.stages = session :: session.turn.session.stages := by
  rw [stages]
  split <;> simp_all

/-- What holds before a conversation and is kept by its turns holds at every stage. -/
theorem forall_stages {P : Session κ → Prop} (hturn : ∀ session, P session → P session.turn.session)
    {session : Session κ} (h : P session) : ∀ stage ∈ session.stages, P stage := by
  induction session using turn_induction with
  | ended session result hended =>
    rw [stages_of_ended hended]
    exact List.forall_mem_singleton.mpr h
  | goesOn session hgoes ih =>
    rw [stages_of_goes_on hgoes]
    exact List.forall_mem_cons.mpr ⟨h, ih (hturn session h)⟩

theorem decoded_eq (session : Session κ) :
    session.decoded = session.stages.flatMap (·.incoming?.toList) := by
  induction session using turn_induction with
  | ended session result hended =>
    rw [decoded_of_ended hended, stages_of_ended hended, List.flatMap_singleton]
  | goesOn session hgoes ih =>
    rw [decoded_of_goes_on hgoes, stages_of_goes_on hgoes, ih, List.flatMap_cons]

/-! ## One turn -/

/-- The next turn takes the packet, and answers it over the transport. -/
structure Takes (session : Session κ) (packet : Packet) (transport : Transport) : Prop where
  state : session.state = .packetLoop
  incoming : session.incoming? = some packet
  stream : session.transport.stream.Drained transport.stream
  packetsReceived : transport.packetsReceived = session.transport.packetsReceived + 1
  turn : session.turn = answerPacket { session with transport }
    ⟨session.transport.packetsReceived, packet⟩
  writes : session.turnWrites = answerWrites { session with transport }
    (.ok (some ⟨session.transport.packetsReceived, packet⟩))

/-- The next turn takes nothing and is the last. -/
structure Stops (session : Session κ) (result : Except Fault SessionEnd) (transport : Transport) :
    Prop where
  incoming : session.incoming? = none
  writes : session.turnWrites = []
  stream : session.transport.stream.Drained transport.stream
  packetsReceived : transport.packetsReceived = session.transport.packetsReceived
  turn : session.turn = ⟨some result, { session with transport }, []⟩

/-- The next turn takes the peer's line, and answers it over the transport. -/
structure Greets (session : Session κ) (line : String) (transport : Transport) : Prop where
  state : session.state = .versionExchange
  incoming : session.incoming? = none
  writes : session.turnWrites = []
  stream : session.transport.stream.Drained transport.stream
  packetsReceived : transport.packetsReceived = session.transport.packetsReceived
  turn : session.turn = greet { session with transport } (.ok (some line))

omit [KeyExchange κ] in
theorem incoming?_of_packetLoop {session : Session κ} (h : session.state = .packetLoop) :
    session.incoming? =
      (session.transport.readPacket session.config.maxPacketLength).1.toOption.join.map
        (·.packet) := by
  rw [incoming?, h]
  rcases (session.transport.readPacket session.config.maxPacketLength).1 with _ | _ | _ <;> rfl

theorem cases_of_packetLoop {session : Session κ} (h : session.state = .packetLoop) :
    (∃ packet transport, session.Takes packet transport) ∨
      ∃ result transport, session.Stops result transport := by
  have hincoming := incoming?_of_packetLoop h
  have hwrites : session.turnWrites = session.exchangeWrites := by rw [turnWrites, h]
  have hturn := turn_of_packetLoop h
  have hdrained := session.transport.drained_readPacket session.config.maxPacketLength
  have hcases := session.transport.readPacket_cases session.config.maxPacketLength
  unfold exchangeWrites at hwrites
  generalize session.transport.readPacket session.config.maxPacketLength = read at *
  obtain ⟨read, after⟩ := read
  rcases hcases with ⟨packet, hread⟩ | ⟨hnone, hafter⟩
  · cases hread
    exact .inl ⟨packet, _, h, hincoming, hdrained, rfl, hturn, hwrites⟩
  · have hcount : after.packetsReceived = session.transport.packetsReceived := by
      rw [show after = _ from hafter]
      rfl
    rcases read with fault | _ | inbound
    · exact .inr ⟨_, after, hincoming, hwrites, hdrained, hcount, hturn⟩
    · exact .inr ⟨_, after, hincoming, hwrites, hdrained, hcount, hturn⟩
    · cases hnone

theorem cases_of_versionExchange {session : Session κ} (h : session.state = .versionExchange) :
    (∃ line transport, session.Greets line transport) ∨
      ∃ result transport, session.Stops result transport := by
  have hincoming : session.incoming? = none := by simp only [incoming?, h]
  have hwrites : session.turnWrites = [] := by simp only [turnWrites, h]
  have hturn := turn_of_versionExchange h
  have hdrained := session.transport.drained_readIdentification
    session.config.maxIdentificationLength
  have hcount := congrArg Transport.packetsReceived (session.transport.readIdentification_snd
    session.config.maxIdentificationLength)
  generalize session.transport.readIdentification session.config.maxIdentificationLength = read
    at *
  obtain ⟨read, after⟩ := read
  rcases read with fault | _ | line
  · exact .inr ⟨_, after, hincoming, hwrites, hdrained, hcount, hturn⟩
  · exact .inr ⟨_, after, hincoming, hwrites, hdrained, hcount, hturn⟩
  · exact .inl ⟨line, after, h, hincoming, hwrites, hdrained, hcount, hturn⟩

/-- **A turn** takes a packet, or the peer's line, or is the last. -/
theorem turn_cases (session : Session κ) :
    (∃ packet transport, session.Takes packet transport) ∨
    (∃ line transport, session.Greets line transport) ∨
      ∃ result transport, session.Stops result transport := by
  cases hstate : session.state with
  | closed =>
    refine .inr (.inr ⟨.error (.protocol .sessionClosed), session.transport, ?_, ?_, .refl _, rfl, ?_⟩)
    · simp only [incoming?, hstate]
    · simp only [turnWrites, hstate]
    · show session.turn = .failed session (.protocol .sessionClosed) []
      rw [turn, hstate]
  | versionExchange => exact .inr (cases_of_versionExchange hstate)
  | packetLoop => exact (cases_of_packetLoop hstate).imp_right .inr

omit [KeyExchange κ] in
/-- What the answer to a line does to the session, and tells. -/
theorem greet_eq (session : Session κ) (line : String) :
    let turn := session.greet (.ok (some line))
    (∃ transport state, turn.session = { session with transport, peerLine := some line, state } ∧
      (state = session.state ∨ state = .packetLoop) ∧
      transport.packetsReceived = session.transport.packetsReceived) ∧
    turn.events = [.versionsExchanged session.connection.peer line (softwareOf line)] := by
  have hcount := session.transport.packetsReceived_writeBytes (ownLine session.config)
  unfold greet Transport.writeIdentification
  simp only
  generalize session.transport.writeBytes (ownLine session.config) = write at hcount ⊢
  obtain ⟨_ | _, after⟩ := write
  · exact ⟨⟨after, _, rfl, .inl rfl, hcount⟩, rfl⟩
  · exact ⟨⟨after, _, rfl, .inr rfl, hcount⟩, rfl⟩

/-- What an answer does to the session and tells, beside its packets. -/
theorem answerPacket_eq (session : Session κ) (inbound : Inbound) :
    let peer := session.connection.peer
    let outcome := session.dispatcher.dispatch session.connection inbound
    let turn := session.answerPacket inbound
    (∃ transport, turn.session =
        { session with connection := outcome.connection, dispatcher := outcome.dispatcher, transport } ∧
      transport.packetsReceived = session.transport.packetsReceived) ∧
    turn.events = Event.received peer inbound.sequence inbound.packet ++ outcome.events
      ++ (Writes.delivered (session.answerWrites (.ok (some inbound)))).flatMap (Event.sent peer) := by
  intro peer outcome turn
  simp only [turn, answerPacket, answerWrites]
  rw [show session.dispatcher.dispatch session.connection inbound = outcome from rfl]
  cases outcome.result with
  | error fault => exact ⟨⟨_, rfl, rfl⟩, (List.append_nil _).symm⟩
  | ok answer =>
    have hevents := session.transport.events_sendReplies peer answer.replies
    have hcount := session.transport.packetsReceived_sendReplies peer answer.replies
    simp only
    generalize hsending : sendReplies peer answer.replies session.transport = sending at *
    obtain ⟨result, after, events⟩ := sending
    rw [← hevents]
    cases result with
    | error fault => exact ⟨⟨after, rfl, hcount⟩, rfl⟩
    | ok _ => exact ⟨⟨after, rfl, hcount⟩, rfl⟩

/-- What no turn changes: the settings, and the label of the peer. -/
structure Kept (session after : Session κ) : Prop where
  config : after.config = session.config
  peer : after.connection.peer = session.connection.peer
  unsupportedPolicy : after.dispatcher.unsupportedPolicy = session.dispatcher.unsupportedPolicy
  markers : after.dispatcher.markers = session.dispatcher.markers

/-- **A turn** keeps the settings, and counts the packet that it takes. -/
theorem kept_turn (session : Session κ) :
    session.Kept session.turn.session ∧
      session.turn.session.transport.packetsReceived
        = session.transport.packetsReceived + UInt32.ofNat session.incoming?.toList.length := by
  rcases session.turn_cases with
    ⟨packet, transport, htakes⟩ | ⟨line, transport, hgreets⟩ | ⟨result, transport, hstops⟩
  · obtain ⟨⟨after, hafter, hcount⟩, -⟩ := answerPacket_eq { session with transport }
      ⟨session.transport.packetsReceived, packet⟩
    obtain ⟨hpolicy, hmarkers⟩ := session.dispatcher.settings_dispatch session.connection
      ⟨session.transport.packetsReceived, packet⟩
    have hpeer := (session.dispatcher.step_dispatch session.connection
      ⟨session.transport.packetsReceived, packet⟩).peer
    rw [htakes.turn, htakes.incoming, hafter]
    exact ⟨⟨rfl, hpeer, hpolicy, hmarkers⟩, hcount.trans htakes.packetsReceived⟩
  · obtain ⟨⟨after, state, hafter, -, hcount⟩, -⟩ := greet_eq { session with transport } line
    rw [hgreets.turn, hgreets.incoming, hafter]
    exact ⟨⟨rfl, rfl, rfl, rfl⟩,
      (hcount.trans hgreets.packetsReceived).trans (UInt32.add_zero _).symm⟩
  · rw [hstops.turn, hstops.incoming]
    exact ⟨⟨rfl, rfl, rfl, rfl⟩, hstops.packetsReceived.trans (UInt32.add_zero _).symm⟩

/-! ## One turn over a stream that accepts everything -/

/-- The session goes on in the packet loop with the same settings, and has written more. -/
structure Onto (session : Session κ) (more : Bytes) (next : Session κ) : Prop where
  state : next.state = .packetLoop
  config : next.config = session.config
  accepting : next.transport.stream.Accepting
  written : next.written = session.written ++ more

omit [KeyExchange κ] in
theorem greet_of_accepting {session : Session κ} (h : session.transport.stream.Accepting)
    (line : String) :
    ∃ next events, session.greet (.ok (some line)) = ⟨none, next, events⟩ ∧
      session.Onto (Transcript.greeting session.config) next := by
  simp only [greet, Transport.writeIdentification, Transport.writeBytes_of_accepting h,
    ownLine_eq_greeting]
  exact ⟨_, _, rfl, rfl, rfl, ⟨h.room, h.flush⟩, rfl⟩

/-- A turn of the packet loop writes the frames of its packets. -/
theorem onto_turn {session : Session κ} (hstate : session.state = .packetLoop)
    (h : session.transport.stream.Accepting) :
    session.Onto ((session.turnWrites.map Prod.fst).flatMap Packet.encode) session.turn.session ∧
      session.turn.session.peerLine = session.peerLine := by
  rcases cases_of_packetLoop hstate with
    ⟨packet, transport, htakes⟩ | ⟨result, transport, hstops⟩
  · have haccepting := htakes.stream.accepting h
    have hwritten := htakes.stream.written
    have hanswer := @answerPacket_of_accepting κ { session with transport } _ haccepting
      ⟨session.transport.packetsReceived, packet⟩
    rw [htakes.turn, htakes.writes, hanswer, answerWrites]
    simp only
    generalize session.dispatcher.dispatch session.connection
      ⟨session.transport.packetsReceived, packet⟩ = outcome
    cases outcome.result with
    | error fault =>
      exact ⟨⟨hstate, rfl, haccepting, hwritten.trans (List.append_nil _).symm⟩, rfl⟩
    | ok answer =>
      have hall : (transport.writes answer.replies).map Prod.fst = answer.replies := by
        rw [Transport.writes_of_accepting haccepting, List.map_map]
        exact List.map_id _
      rw [hall]
      exact ⟨⟨hstate, rfl, ⟨haccepting.room, haccepting.flush⟩, congrArg (· ++ _) hwritten⟩, rfl⟩
  · rw [hstops.turn, hstops.writes]
    exact ⟨⟨hstate, rfl, hstops.stream.accepting h,
      hstops.stream.written.trans (List.append_nil _).symm⟩, rfl⟩

theorem accepting_turn {session : Session κ} (h : session.transport.stream.Accepting) :
    session.turn.session.transport.stream.Accepting := by
  rcases session.turn_cases with
    ⟨packet, transport, htakes⟩ | ⟨line, transport, hgreets⟩ | ⟨result, transport, hstops⟩
  · exact (onto_turn htakes.state h).1.accepting
  · have haccepting := hgreets.stream.accepting h
    obtain ⟨next, events, hgreet, honto⟩ :=
      @greet_of_accepting κ { session with transport } haccepting line
    rw [hgreets.turn, hgreet]
    exact honto.accepting
  · rw [hstops.turn]
    exact hstops.stream.accepting h

/-- The packet loop writes the frames of its packets, one after the other. -/
theorem written_of_packetLoop {session : Session κ} (hstate : session.state = .packetLoop)
    (h : session.transport.stream.Accepting) :
    session.converse.session.written
        = session.written ++ (session.writes.map Prod.fst).flatMap Packet.encode ∧
      session.converse.session.peerLine = session.peerLine := by
  induction session using turn_induction with
  | ended session result hended =>
    rw [converse_of_ended hended, writes_of_ended hended]
    obtain ⟨honto, hline⟩ := onto_turn hstate h
    exact ⟨honto.written, hline⟩
  | goesOn session hgoes ih =>
    rw [converse_of_goes_on hgoes, writes_of_goes_on hgoes]
    obtain ⟨honto, hline⟩ := onto_turn hstate h
    obtain ⟨hwritten, hlater⟩ := ih honto.state honto.accepting
    refine ⟨?_, hlater.trans hline⟩
    rw [hwritten, honto.written, List.map_append, List.flatMap_append, List.append_assoc]

/-- **A conversation** writes nothing without a line of the peer, else its own line and the frames
of its packets. -/
theorem written_of_versionExchange {session : Session κ} (hstate : session.state = .versionExchange)
    (h : session.transport.stream.Accepting) (hline : session.peerLine = none) :
    session.converse.session.written = session.written
      ++ output session.config session.converse.session.peerLine (session.writes.map Prod.fst) := by
  rcases cases_of_versionExchange hstate with
    ⟨line, transport, hgreets⟩ | ⟨result, transport, hstops⟩
  · have haccepting := hgreets.stream.accepting h
    obtain ⟨next, events, hgreet, honto⟩ :=
      @greet_of_accepting κ { session with transport } haccepting line
    obtain ⟨⟨after, state, hnext, -⟩, -⟩ := greet_eq { session with transport } line
    have hturn := hgreets.turn.trans hgreet
    have hgoes : session.turn.ended = none := congrArg Turn.ended hturn
    have hsession : session.turn.session = next := congrArg Turn.session hturn
    have hsome : next.peerLine = some line := by
      rw [hgreet] at hnext
      exact congrArg Session.peerLine hnext
    obtain ⟨hwritten, hlast⟩ := written_of_packetLoop honto.state honto.accepting
    rw [converse_of_goes_on hgoes, writes_of_goes_on hgoes, hgreets.writes, hsession]
    simp only [hwritten, hlast, hsome, output, honto.written, ownLine_eq_greeting,
      List.append_assoc, List.nil_append]
    exact congrArg (· ++ _) hgreets.stream.written
  · have hended : session.turn.ended = some result := congrArg Turn.ended hstops.turn
    rw [converse_of_ended hended, hstops.turn]
    simp only [hline, output, List.append_nil]
    exact hstops.stream.written

end Session
end MockSsh
