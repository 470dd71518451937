import MockSsh.Proofs.Dispatch.Display
import MockSsh.Proofs.Session.Blame

/-!
What the log of a connection shows of the peer's text. The events of a turn show what its packet
names, and those of a conversation what its packets name, in their order (`Session.shows_converse`). All
else that is shown is plain, but for the words in which the stream told of its own faults: whatever is
called on a transport, its faults are those of the stream or have plain words
(`Session.said_converse`).
-/
namespace MockSsh

open Text (Plain)

/-! ## The faults of a stream -/

namespace Stream

/-- The faults that a stream meets, in the words in which it tells of them. -/
def faults (stream : Stream) : List StreamFault :=
  [stream.ending, stream.writeFault, stream.flushFault, stream.shutdownFault].filterMap id

theorem faults_perform (stream : Stream) (operation : Operation) :
    (stream.perform operation).2.faults = stream.faults := by
  cases operation with
  | read size =>
    have hread : (stream.read size).2.faults = stream.faults := by
      unfold read
      split <;> rfl
    rw [perform, ← hread]
    generalize stream.read size = read
    obtain ⟨_ | bytes, after⟩ := read <;> rfl
  | write bytes =>
    show (stream.write bytes).2.faults = stream.faults
    unfold write
    split
    · rfl
    · split <;> rfl
  | flush | shutdown => rfl

theorem faults_past (stream : Stream) (operations : List Operation) :
    (stream.past operations).faults = stream.faults := by
  induction operations generalizing stream with
  | nil => rfl
  | cons operation rest ih => exact (ih _).trans (stream.faults_perform operation)

theorem mem_faults {stream : Stream} {cause : StreamFault}
    (h : some cause ∈ [stream.ending, stream.writeFault, stream.flushFault, stream.shutdownFault]) :
    cause ∈ stream.faults :=
  List.mem_filterMap.mpr ⟨_, h, rfl⟩

end Stream

namespace Transport

/-- No call changes the faults that a stream meets. -/
theorem faults_past (transport : Transport) (calls : List Call) :
    (transport.past calls).stream.faults = transport.stream.faults := by
  rw [stream_past]
  exact transport.stream.faults_past _

theorem faults_readExact (transport : Transport) (size : Nat) :
    (transport.readExact size).2.stream.faults = transport.stream.faults :=
  transport.faults_past [.readExact size]

/-! ## The words of what a call fails with -/

theorem said_readExact {transport : Transport} {size : Nat} {fault : Fault}
    (h : (transport.readExact size).1 = .error fault) : fault.SaidBy transport.stream.faults := by
  have hending : (transport.stream.read size).2.ending = transport.stream.ending := by
    unfold Stream.read
    split <;> rfl
  unfold readExact at h
  generalize transport.stream.read size = read at h hending
  obtain ⟨_ | bytes, after⟩ := read
  · simp only [endOfRead] at h
    split at h
    · cases h
    · next cause hcause =>
      split at h
      · cases h
      · cases h
        refine .inr ⟨cause, Stream.mem_faults ?_, rfl⟩
        rw [← hending, hcause]
        exact List.mem_cons_self
  · cases h

/-- The exact reads of a reader fail as exact reads do: the induction is on the reader. -/
theorem said_run {α : Type} {reading : Reading α} {transport : Transport} {fault : Fault}
    (h : (reading.run transport).1 = .error fault) : fault.SaidBy transport.stream.faults := by
  induction reading generalizing transport with
  | give answer => cases h
  | ask size next ih =>
    have hread := @said_readExact transport size fault
    have hkept := transport.faults_readExact size
    rw [Reading.run] at h
    generalize transport.readExact size = read at h hread hkept
    obtain ⟨answer, after⟩ := read
    rcases answer with met | _ | bytes
    · cases h
      exact hread rfl
    · cases h
    · exact hkept ▸ ih bytes h

theorem said_decided {α β : Type} {reading : Reading (Except Fault α)}
    (hgives : reading.Gives RefusesSize) {transport : Transport} {form : α → β} {fault : Fault}
    (h : (decided (reading.run transport)).1.map (Option.map form) = .error fault) :
    fault.SaidBy transport.stream.faults := by
  have hrun := @said_run _ reading transport fault
  have hrefuses {answer : Except Fault α}
      (hgiven : (reading.run transport).1 = .ok (some answer)) : RefusesSize answer :=
    hgives.run hgiven
  generalize reading.run transport = read at *
  obtain ⟨answer, after⟩ := read
  rcases answer with met | _ | refused | answer
  · cases h
    exact hrun rfl
  · cases h
  · cases h
    exact .inl (Fault.plain_message (hrefuses rfl _ rfl))
  · cases h

theorem said_readPacket {transport : Transport} {limit : Nat} {fault : Fault}
    (h : (transport.readPacket limit).1 = .error fault) : fault.SaidBy transport.stream.faults := by
  rw [readPacket_gives] at h
  exact said_decided (refusesSize_packetReading limit) h

theorem said_readIdentification {transport : Transport} {limit : Nat} {fault : Fault}
    (h : (transport.readIdentification limit).1 = .error fault) :
    fault.SaidBy transport.stream.faults := by
  rw [readIdentification_gives] at h
  exact said_decided (refusesSize_lineReading (limit - 1) []) h

theorem said_writeBytes {transport : Transport} {bytes : Bytes} {fault : Fault}
    (h : (transport.writeBytes bytes).1 = .error fault) : fault.SaidBy transport.stream.faults := by
  have hwrite : ∀ cause, (transport.stream.write bytes).1 = some cause →
      cause = transport.stream.writeFault.getD .nothingWritten := by
    unfold Stream.write
    split
    · rintro cause ⟨⟩
    · split
      · rintro cause ⟨⟩
      · rintro cause ⟨⟩
        rfl
  have hkept := transport.stream.faults_perform (.write bytes)
  rw [Stream.perform] at hkept
  unfold writeBytes at h
  split at h
  · next cause after hfault =>
    cases h
    rw [hfault] at hwrite
    rw [hwrite cause rfl]
    cases hfault : transport.stream.writeFault with
    | none => exact .inl (by decide)
    | some cause => exact .inr ⟨cause, Stream.mem_faults (by rw [hfault]; simp), rfl⟩
  · next after hwritten =>
    rw [hwritten] at hkept
    split at h
    · next cause last hflush =>
      cases h
      have hcause := Stream.flushFault_of_nextFlush (congrArg Prod.fst hflush)
      rw [← hkept]
      exact .inr ⟨cause, Stream.mem_faults (by rw [hcause]; simp), rfl⟩
    · cases h

theorem said_shutdown {transport : Transport} {fault : Fault}
    (h : transport.shutdown.1 = .error fault) : fault.SaidBy transport.stream.faults := by
  unfold shutdown at h
  split at h
  · cases h
  · next cause after hshutdown =>
    have hcause : transport.stream.shutdownFault = some cause := congrArg Prod.fst hshutdown
    split at h
    · cases h
    · cases h
      exact .inr ⟨cause, Stream.mem_faults (by rw [hcause]; simp), rfl⟩

/-- Replies fail as the writing of one of them does. -/
theorem said_sendReplies {transport : Transport} {peer : String} {packets : List Packet}
    {fault : Fault} (h : (Session.sendReplies peer packets transport).1 = .error fault) :
    fault.SaidBy transport.stream.faults := by
  induction packets generalizing transport with
  | nil => cases h
  | cons packet rest ih =>
    have hwrite := @said_writeBytes transport packet.encode fault
    have hkept : (transport.writePacket packet).2.stream.faults = transport.stream.faults :=
      transport.faults_past [.writePacket packet]
    rw [← (transport.writePacket_of_writeBytes packet).1] at hwrite
    rw [Session.sendReplies] at h
    generalize transport.writePacket packet = write at h hwrite hkept
    obtain ⟨met | _, after⟩ := write
    · cases h
      exact hwrite rfl
    · exact hkept ▸ ih h

end Transport

namespace Session

variable {κ : Type}

/-! ## What a run fails with -/

theorem faults_turn [KeyExchange κ] (session : Session κ) :
    session.turn.session.transport.stream.faults = session.transport.stream.faults := by
  rw [past_turnCalls]
  exact session.transport.faults_past _

theorem said_greet {session : Session κ} {line : String} {fault : Fault}
    (h : (session.greet (.ok (some line))).ended = some (.error fault)) :
    fault.SaidBy session.transport.stream.faults := by
  have hwrite := @Transport.said_writeBytes session.transport (ownLine session.config) fault
  rw [greet, Transport.writeIdentification] at h
  generalize session.transport.writeBytes (ownLine session.config) = write at h hwrite
  obtain ⟨met | _, after⟩ := write
  · cases h
    exact hwrite rfl
  · cases h

/-- Without keys a packet fails only where its payload is cut short. -/
theorem said_answerPacket {session : Session Cleartext} {inbound : Inbound} {fault : Fault}
    (h : (session.answerPacket inbound).ended = some (.error fault)) :
    fault.SaidBy session.transport.stream.faults := by
  unfold answerPacket at h
  simp only at h
  split at h
  · next met hmet =>
    cases h
    exact .inl (Fault.plain_message (Dispatcher.isOfSize_of_error hmet))
  · next answer hanswer =>
    have hsending := @Transport.said_sendReplies session.transport session.connection.peer
      answer.replies fault
    generalize sendReplies session.connection.peer answer.replies session.transport = sending
      at h hsending
    obtain ⟨met | _, after, events⟩ := sending
    · cases h
      exact hsending rfl
    · cases hnext : answer.next <;> rw [hnext] at h <;> cases h

/-- **A turn** fails with a fault of its stream, or with plain words. -/
theorem said_turn {session : Session Cleartext} {fault : Fault}
    (h : session.turn.ended = some (.error fault)) :
    fault.SaidBy session.transport.stream.faults := by
  cases hstate : session.state with
  | closed =>
    rw [turn, hstate] at h
    cases h
    exact .inl (by decide)
  | versionExchange =>
    have hread := @Transport.said_readIdentification session.transport
      session.config.maxIdentificationLength fault
    have hkept : (session.transport.readIdentification _).2.stream.faults = _ :=
      session.transport.faults_past [.readIdentification session.config.maxIdentificationLength]
    rw [turn_of_versionExchange hstate] at h
    generalize session.transport.readIdentification _ = read at h hread hkept
    obtain ⟨met | _ | line, after⟩ := read
    · cases h
      exact hread rfl
    · cases h
    · exact hkept ▸ said_greet h
  | packetLoop =>
    have hread := @Transport.said_readPacket session.transport session.config.maxPacketLength fault
    have hkept : (session.transport.readPacket _).2.stream.faults = _ :=
      session.transport.faults_past [.readPacket session.config.maxPacketLength]
    rw [turn_of_packetLoop hstate] at h
    generalize session.transport.readPacket _ = read at h hread hkept
    obtain ⟨met | _ | inbound, after⟩ := read
    · cases h
      exact hread rfl
    · cases h
    · exact hkept ▸ said_answerPacket h

/-- **A conversation** fails as its last turn does. -/
theorem said_converse {session : Session Cleartext} {fault : Fault}
    (h : session.converse.result = .error fault) :
    fault.SaidBy session.transport.stream.faults := by
  induction session using turn_induction with
  | ended session result hended =>
    rw [converse_of_ended hended] at h
    exact said_turn (hended.trans (congrArg some h))
  | goesOn session hgoes ih =>
    rw [converse_of_goes_on hgoes] at h
    exact session.faults_turn ▸ ih h

/-! ## What the log shows -/

section Shows

variable [KeyExchange κ] (faults : List StreamFault)

/-- **A turn** shows what the packet names that it takes. -/
theorem shows_turn (session : Session κ) :
    Event.Shows faults (session.incoming?.toList.flatMap Packet.named) session.turn.events := by
  rcases session.turn_cases with
    ⟨packet, transport, htakes⟩ | ⟨line, transport, hgreets⟩ | ⟨result, transport, hstops⟩
  · obtain ⟨-, hevents⟩ := answerPacket_eq { session with transport }
      ⟨session.transport.packetsReceived, packet⟩
    have hpacket := session.dispatcher.shows_dispatch faults session.connection
      ⟨session.transport.packetsReceived, packet⟩
    have hreceived (sequence : UInt32) :
        Event.Shows faults [] (Event.received session.connection.peer sequence packet) :=
      Event.shows_of_mute (by simp [Event.received, Event.isMute])
    have hsent (packets : List Packet) :
        Event.Shows faults [] (packets.flatMap (Event.sent session.connection.peer)) := by
      refine Event.shows_of_mute fun event hmem => ?_
      obtain ⟨packet, -, hevent⟩ := List.mem_flatMap.mp hmem
      rcases List.mem_pair.mp hevent with rfl | rfl <;> rfl
    have hnames : packet.named = [] ++ packet.named ++ [] := (List.append_nil _).symm
    rw [htakes.turn, htakes.incoming, hevents, Option.toList_some, List.flatMap_singleton, hnames]
    exact ((hreceived _).append hpacket).append (hsent _)
  · obtain ⟨-, hevents⟩ := greet_eq { session with transport } line
    rw [hgreets.turn, hgreets.incoming, hevents]
    exact Event.shows_mute rfl
  · rw [hstops.turn, hstops.incoming]
    exact Event.shows_of_mute (List.forall_mem_nil _)

/-- **A conversation** shows what its packets name: the induction is on its turns. -/
theorem shows_converse (session : Session κ) :
    Event.Shows faults (session.decoded.flatMap Packet.named) session.converse.events := by
  induction session using turn_induction with
  | ended session result hended =>
    rw [converse_of_ended hended, decoded_of_ended hended]
    exact session.shows_turn faults
  | goesOn session hgoes ih =>
    rw [converse_of_goes_on hgoes, decoded_of_goes_on hgoes, List.flatMap_append]
    exact (session.shows_turn faults).append ih

end Shows

/-- To leave a session shows no more than a fault of its stream. -/
theorem shows_leave (session : Session κ) :
    Event.Shows session.transport.stream.faults [] session.leave.2 := by
  have hshutdown := @Transport.said_shutdown session.transport
  unfold leave
  simp only
  split
  · next fault hfault =>
    exact ⟨by simp [Event.named_eq], List.forall_mem_singleton.mpr (hshutdown hfault)⟩
  · exact Event.shows_of_mute (List.forall_mem_nil _)

theorem faults_converse [KeyExchange κ] (session : Session κ) :
    session.converse.session.transport.stream.faults = session.transport.stream.faults := by
  induction session using turn_induction with
  | ended session result hended =>
    rw [converse_of_ended hended]
    exact session.faults_turn
  | goesOn session hgoes ih =>
    rw [converse_of_goes_on hgoes]
    exact ih.trans session.faults_turn

theorem shows_run [KeyExchange κ] (session : Session κ) :
    Event.Shows session.transport.stream.faults (session.decoded.flatMap Packet.named)
      session.run.events := by
  have hleave := session.converse.session.shows_leave
  rw [faults_converse] at hleave
  rw [events_run, ← List.append_nil (session.decoded.flatMap _)]
  exact (session.shows_converse _).append hleave

end Session

/-! ## Connections -/

/-- The end of a connection is told in plain words, or in those of its stream. -/
theorem Event.shows_ofEnd {faults : List StreamFault} {result : Except Fault Report}
    (h : ∀ fault, result = .error fault → fault.SaidBy faults) (peer : String) :
    Shows faults [] [ofEnd peer result] := by
  cases result with
  | error fault => exact ⟨by simp [ofEnd, named_eq], List.forall_mem_singleton.mpr (h fault rfl)⟩
  | ok report => exact shows_mute rfl

/-- What a tidy event shows. The peer's line is always shown in its one-line form. -/
theorem Event.Tidy.fields {faults : List StreamFault} {event : Event} (h : event.Tidy faults)
    {name text : String} (hfield : (name, FieldValue.text text) ∈ event.fields) :
    (name = "peer_version" ∨ name = "user" → Plain text) ∧
    (name = "error" →
      Plain text ∨ ∃ cause ∈ faults, text = (Fault.stream cause).message) := by
  have hsaid {fault : Fault} (h : fault.SaidBy faults) :
      Plain fault.message ∨ ∃ cause ∈ faults, fault.message = (Fault.stream cause).message :=
    h.imp_right fun ⟨cause, hmem, hfault⟩ => ⟨cause, hmem, congrArg Fault.message hfault⟩
  cases event with
  | versionsExchanged peer line software =>
    have hplain := Text.plain_escape line
    simp [Event.fields] at hfield
    grind
  | loginRequested peer user kind | authenticated peer user =>
    have hplain : Plain user := h
    simp [Event.fields] at hfield
    grind
  | connectionAborted peer fault | shutdownFailed peer fault | serviceUnreadable peer fault =>
    have hfault := hsaid h
    simp [Event.fields] at hfield
    grind
  | channelReopened peerId localId | localIdShared peerId localId => simp [Event.fields] at hfield
  | _ =>
    simp [Event.fields] at hfield
    grind

/-- **What a log shows of the peer's text**, whatever the peer sends and the stream meets. The services
and the commands that it shows are, one after the other, those that the packets name, as they were
sent. The peer's line and the names of users are plain, and an error is told in plain words or in those
in which the stream told of its own fault. -/
theorem displayed_of_serveStream (stream : Stream) (config : Config) (peer : String) :
    let session := Session.fresh stream config peer Cleartext.fresh
    let served := serveStream stream config peer
    served.events.flatMap Event.named = session.decoded.flatMap Packet.named ∧
    ∀ event ∈ served.events, ∀ name text, (name, FieldValue.text text) ∈ event.fields →
      (name = "peer_version" ∨ name = "user" → Plain text) ∧
      (name = "error" →
        Plain text ∨ ∃ cause ∈ stream.faults, text = (Fault.stream cause).message) := by
  intro session served
  have hend : ∀ fault, session.run.result = .error fault → fault.SaidBy stream.faults := by
    intro fault hfault
    rw [Session.result_run] at hfault
    cases hconverse : session.converse.result with
    | error met =>
      rw [hconverse] at hfault
      cases hfault
      exact Session.said_converse hconverse
    | ok ended =>
      rw [hconverse] at hfault
      cases hfault
  have hbegin : Event.Shows stream.faults [] [.connectionAccepted peer] := Event.shows_mute rfl
  have hall : Event.Shows stream.faults _ served.events :=
    (hbegin.append session.shows_run).append (Event.shows_ofEnd hend peer)
  refine ⟨?_, fun event hmem name text hfield => (hall.tidy event hmem).fields hfield⟩
  rw [hall.named, List.nil_append, List.append_nil]

/-- A request for a service whose name goes on in a second line, and a command that does. The log shows
both as they were sent. -/
theorem displayed_of_serveStream_forged :
    let line : Bytes := [83, 83, 72, 45, 10]
    let request : Bytes := [0, 0, 0, 8, 0, 5, 0, 0, 0, 2, 97, 10]
    let command : Bytes :=
      [0, 0, 0, 21, 0, 98, 0, 0, 0, 0, 0, 0, 0, 4, 101, 120, 101, 99, 0, 0, 0, 0, 2, 10, 98]
    let served := serveStream (.ofInput (line ++ request ++ command)) .default "peer"
    Plain "peer" ∧ ¬ Plain "a\n" ∧ ¬ Plain "\nb" ∧
    (∃ event ∈ served.events, ("service", FieldValue.text "a\n") ∈ event.fields) ∧
    ∃ event ∈ served.events, ("command", FieldValue.text "\nb") ∈ event.fields := by
  decide +kernel

end MockSsh
