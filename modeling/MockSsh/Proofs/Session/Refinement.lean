import MockSsh.Proofs.Session.Cuts
import MockSsh.Proofs.Session.Transcript
import MockSsh.Proofs.Stream.Faultless

/-!
Over a stream that meets no fault, a run of a session does exactly what the transcript of the bytes
tells (`run_as_transcript`).

A turn takes what `cutLine` or `cutFrame` takes off the bytes to come, so that the packet loop follows
`Transcript.ofPackets` by induction on their number (`converse_as_packets`). How many bytes were
counted on the way is left open; nothing that can be seen from outside depends on it.
-/
namespace MockSsh

variable {κ : Type}

namespace Session

variable {session other : Session κ}

/-! ## One turn -/

/-- In the packet loop, a turn takes what `cutFrame` takes off the bytes. -/
theorem turn_of_cutFrame [KeyExchange κ] (hstate : session.state = .packetLoop)
    (h : session.transport.stream.Faultless) {cut : FrameCut}
    (hcut : cutFrame session.config.maxPacketLength session.transport.stream.pending = cut) :
    ∃ counted, session.turn.Alike
      (match cut with
        | .incomplete => ⟨some (.ok .peerClosed),
            { session with transport := session.transport.advance [] counted }, []⟩
        | .refused fault rest => ⟨some (.error fault),
            { session with transport := session.transport.advance rest counted }, []⟩
        | .packet packet rest =>
          let transport := { session.transport.advance rest counted with
            packetsReceived := session.transport.packetsReceived + 1 }
          answerPacket { session with transport } ⟨session.transport.packetsReceived, packet⟩) := by
  obtain ⟨counted, hread⟩ := session.transport.readPacket_alike session.config.maxPacketLength
  rw [hcut] at hread
  refine ⟨counted, ?_⟩
  cases cut with
  | incomplete =>
    have hend : session.transport.stream.ending = none := h.ending
    rw [Transport.packetRead, hend] at hread
    exact turn_of_readPacket hstate hread
  | refused fault rest => exact turn_of_readPacket hstate hread
  | packet packet rest => exact turn_of_readPacket hstate hread

theorem answerPacket_of_accepting [KeyExchange κ] (h : session.transport.stream.Accepting)
    (inbound : Inbound) :
    session.answerPacket inbound =
      let peer := session.connection.peer
      let outcome := session.dispatcher.dispatch session.connection inbound
      let received := Event.received peer inbound.sequence inbound.packet ++ outcome.events
      match outcome.result with
      | .error fault => ⟨some (.error fault), { session with
          connection := outcome.connection
          dispatcher := outcome.dispatcher }, received⟩
      | .ok answer => ⟨endAfter answer.next, { session with
          connection := outcome.connection
          dispatcher := outcome.dispatcher
          transport := session.transport.sent answer.replies },
          received ++ answer.replies.flatMap (Event.sent peer)⟩ := by
  unfold answerPacket
  simp only
  cases (session.dispatcher.dispatch session.connection inbound).result with
  | error fault => rfl
  | ok answer => simp only [Transport.sendReplies_of_accepting h]

/-! ## The packet loop -/

theorem converse_alike_of_ended [KeyExchange κ] {result : Except Fault SessionEnd}
    {events : List Event} (h : session.turn.Alike ⟨some result, other, events⟩) :
    session.converse.Alike ⟨result, other, events⟩ := by
  obtain ⟨hended, hevents, hafter⟩ := h.fields
  rw [converse_of_ended hended]
  exact ⟨rfl, hevents, hafter⟩

theorem converse_alike_of_goes_on [KeyExchange κ] {events : List Event}
    (h : session.turn.Alike ⟨none, other, events⟩) :
    session.converse.Alike
      ⟨other.converse.result, other.converse.session, events ++ other.converse.events⟩ := by
  obtain ⟨hended, hevents, hafter⟩ := h.fields
  obtain ⟨hresult, hrest, hlast⟩ := hafter.converse
  rw [converse_of_goes_on hended, hresult, hrest]
  exact ⟨rfl, congrArg (· ++ other.converse.events) hevents, hlast⟩

/-- The session once `packets` packets have come and `replies` were sent, with `rest` still to
come. -/
def past (session : Session κ) (counted packets : Nat) (replies : List Packet) (rest : Bytes)
    (connection : Connection) (dispatcher : Dispatcher κ) : Session κ :=
  { session with
    transport := session.transport.after counted packets replies rest
    connection
    dispatcher }

theorem packetsReceived_past (session : Session κ) (counted packets : Nat) (replies : List Packet)
    (rest : Bytes) (connection : Connection) (dispatcher : Dispatcher κ) :
    (session.past counted packets replies rest connection dispatcher).transport.packetsReceived
      = UInt32.ofNat packets := rfl

theorem pending_past (session : Session κ) (counted packets : Nat) (replies : List Packet)
    (rest : Bytes) (connection : Connection) (dispatcher : Dispatcher κ) :
    (session.past counted packets replies rest connection dispatcher).transport.stream.pending
      = rest :=
  Transport.pending_after session.transport counted packets replies rest

/-- The conversation that a transcript tells, taken from the session. -/
def followed (session : Session κ) (counted : Nat) (told : Transcript κ) : Finished κ :=
  ⟨told.ended, session.past counted told.packets told.replies told.rest told.connection
    told.dispatcher, told.events⟩

/-- What is told after a packet was answered is taken from the session that has answered it. -/
theorem followed_answered (counted more packets : Nat) (replies : List Packet) (rest : Bytes)
    (connection : Connection) (dispatcher : Dispatcher κ) (events : List Event)
    (later : Transcript κ) :
    let last := (session.past counted packets replies rest connection dispatcher).followed more later
    session.followed (counted + more) (later.answered replies events)
      = { last with events := events ++ last.events } := by
  simp only [followed, past, Transcript.answered, Transport.after_after]

/-- A packet after which nothing more is told. -/
theorem followed_last (counted packets : Nat) (replies : List Packet) (rest : Bytes)
    (connection : Connection) (dispatcher : Dispatcher κ) (events : List Event)
    (ended : Except Fault SessionEnd) :
    session.followed counted
        ((Transcript.stopped ended packets rest connection dispatcher).answered replies events)
      = ⟨ended, session.past counted packets replies rest connection dispatcher, events⟩ := by
  simp only [followed, Transcript.answered, Transcript.stopped, List.append_nil]

section Loop

variable {index : Nat} (hindex : session.transport.packetsReceived = UInt32.ofNat index)
include hindex

theorem past_unanswered (counted : Nat) (rest : Bytes) :
    session.past counted index [] rest session.connection session.dispatcher
      = { session with transport := session.transport.advance rest counted } := by
  have hafter : session.transport.after counted index [] rest
      = session.transport.advance rest counted := by
    rw [Transport.after, Transport.sent_nil, ← hindex]
    rfl
  rw [past, hafter]

variable [KeyExchange κ] (hfaultless : session.transport.stream.Faultless)
include hfaultless

/-- The packet that was taken off the bytes, answered. -/
theorem answerPacket_past (counted : Nat) (packet : Packet) (rest : Bytes) :
    let peer := session.connection.peer
    let sequence := UInt32.ofNat index
    let outcome := session.dispatcher.dispatch session.connection ⟨sequence, packet⟩
    let received := Event.received peer sequence packet ++ outcome.events
    let past (replies : List Packet) : Session κ :=
      session.past counted (index + 1) replies rest outcome.connection outcome.dispatcher
    let transport := { session.transport.advance rest counted with
      packetsReceived := session.transport.packetsReceived + 1 }
    answerPacket { session with transport } ⟨session.transport.packetsReceived, packet⟩ =
      match outcome.result with
      | .error fault => ⟨some (.error fault), past [], received⟩
      | .ok answer => ⟨endAfter answer.next, past answer.replies,
          received ++ answer.replies.flatMap (Event.sent peer)⟩ := by
  intro peer sequence outcome received past transport
  have hpast (replies : List Packet) : past replies = { session with
      transport := transport.sent replies
      connection := outcome.connection
      dispatcher := outcome.dispatcher } := by
    simp only [past, transport, Session.past, Transport.after, Transport.sent, hindex,
      UInt32.ofNat_add]
    rfl
  have hthere : transport.stream.Accepting := ⟨hfaultless.room, hfaultless.flush⟩
  rw [answerPacket_of_accepting hthere]
  simp only [hindex, hpast, Transport.sent_nil]
  rfl

/-- **The packet loop** follows the transcript of the bytes to come: the induction is on their
number. -/
theorem converse_as_packets (hstate : session.state = .packetLoop) :
    ∃ counted, session.converse.Alike (session.followed counted
      (.ofPackets session.config.maxPacketLength session.dispatcher session.connection index
        session.transport.stream.pending)) := by
  induction hlength : session.transport.stream.unread using Nat.strongRecOn
    generalizing session index with
  | ind length ih =>
    -- the turn and the transcript branch on the same cut, and after a packet on the same outcome
    cases hcut : cutFrame session.config.maxPacketLength session.transport.stream.pending with
    | incomplete =>
      obtain ⟨counted, hturn⟩ := turn_of_cutFrame hstate hfaultless hcut
      refine ⟨counted, ?_⟩
      rw [Transcript.ofPackets_of_incomplete hcut, followed, Transcript.stopped,
        past_unanswered hindex]
      exact converse_alike_of_ended hturn
    | refused fault rest =>
      obtain ⟨counted, hturn⟩ := turn_of_cutFrame hstate hfaultless hcut
      refine ⟨counted, ?_⟩
      rw [Transcript.ofPackets_of_refused hcut, followed, Transcript.stopped,
        past_unanswered hindex]
      exact converse_alike_of_ended hturn
    | packet packet rest =>
      obtain ⟨counted, hturn⟩ := turn_of_cutFrame hstate hfaultless hcut
      simp only [answerPacket_past hindex hfaultless] at hturn
      rw [Transcript.ofPackets_of_packet hcut]
      simp only
      generalize session.dispatcher.dispatch session.connection ⟨UInt32.ofNat index, packet⟩
        = outcome at hturn ⊢
      cases hresult : outcome.result with
      | error fault =>
        simp only [hresult] at hturn
        refine ⟨counted, ?_⟩
        rw [followed_last]
        exact converse_alike_of_ended hturn
      | ok answer =>
        obtain ⟨replies, next⟩ := answer
        simp only [hresult] at hturn
        cases next with
        | proceed =>
          -- only here something is left to tell, of the bytes behind the frame
          obtain ⟨hresult, hevents, hlast⟩ := converse_alike_of_goes_on hturn
          have hless : rest.length < length := by
            rw [← hlength]
            exact length_cutFrame hcut
          obtain ⟨more, hmore⟩ := ih rest.length hless
            (packetsReceived_past session counted (index + 1) replies rest outcome.connection
              outcome.dispatcher)
            (Transport.faultless_after hfaultless counted (index + 1) replies rest) hstate
            (congrArg List.length
              (Transport.pending_after session.transport counted (index + 1) replies rest))
          rw [pending_past] at hmore
          refine ⟨counted + more, ?_⟩
          rw [followed_answered]
          exact ⟨hresult.trans hmore.result,
            hevents.trans (congrArg (_ ++ ·) hmore.events), hlast.trans hmore.session⟩
        | peerDisconnected message =>
          refine ⟨counted, ?_⟩
          rw [followed_last]
          exact converse_alike_of_ended hturn
        | policyDisconnect =>
          refine ⟨counted, ?_⟩
          rw [followed_last]
          exact converse_alike_of_ended hturn

end Loop

/-! ## The whole run -/

theorem ownLine_eq_greeting (config : Config) : ownLine config = Transcript.greeting config := by
  have hmarker : "SSH-" ++ "2.0" ++ "-" = "SSH-2.0-" := by decide
  simp only [ownLine, Transcript.greeting, Identification.wire, Identification.display,
    Identification.ofSoftware, String.append_empty, hmarker]

/-- The session after its first turn. -/
def greeted (session : Session κ) (counted : Nat) (line : String) (rest : Bytes) : Session κ :=
  { session with
    transport := (session.transport.advance rest counted).wrote (Transcript.greeting session.config)
    peerLine := some line
    state := .packetLoop }

theorem pending_greeted (session : Session κ) (counted : Nat) (line : String) (rest : Bytes) :
    (session.greeted counted line rest).transport.stream.pending = rest :=
  Transport.pending_advance session.transport rest counted

/-- The first turn takes what `cutLine` takes off the bytes, and answers a line with a line. -/
theorem turn_of_cutLine [KeyExchange κ] (hstate : session.state = .versionExchange)
    (h : session.transport.stream.Faultless) {cut : LineCut}
    (hcut : cutLine session.config.maxIdentificationLength session.transport.stream.pending = cut) :
    ∃ counted, session.turn.Alike
      (match cut with
        | .incomplete => ⟨some (.ok .peerClosed),
            { session with transport := session.transport.advance [] counted }, []⟩
        | .tooLong length rest => ⟨some (.error (.identificationTooLong length)),
            { session with transport := session.transport.advance rest counted }, []⟩
        | .line text rest =>
          let line := identificationText text
          ⟨none, session.greeted counted line rest,
            [.versionsExchanged session.connection.peer line (softwareOf line)]⟩) := by
  obtain ⟨counted, hread⟩ :=
    session.transport.readIdentification_alike session.config.maxIdentificationLength
  rw [hcut] at hread
  refine ⟨counted, ?_⟩
  cases cut with
  | incomplete =>
    have hend : session.transport.stream.ending = none := h.ending
    rw [Transport.identificationRead, hend] at hread
    exact turn_of_readIdentification hstate hread
  | tooLong length rest => exact turn_of_readIdentification hstate hread
  | line text rest =>
    have hthere : (session.transport.advance rest counted).stream.Accepting := ⟨h.room, h.flush⟩
    have hturn := turn_of_readIdentification hstate hread
    simp only [greet, ownLine_eq_greeting, Transport.writeIdentification,
      Transport.writeBytes_of_accepting hthere] at hturn
    exact hturn

/-- The session stands where the transcript ends, and has not been left yet. -/
structure Reaches (session : Session κ) (config : Config) (told : Transcript κ) : Prop where
  connection : session.connection = told.connection
  dispatcher : session.dispatcher = told.dispatcher
  peerLine : session.peerLine = told.line
  faultless : session.transport.stream.Faultless
  pending : session.transport.stream.pending = told.rest
  written : session.transport.stream.written = told.written config
  flushes : session.transport.stream.flushes = told.flushes
  shutdowns : session.transport.stream.shutdowns = 0
  packetsReceived : session.transport.packetsReceived = UInt32.ofNat told.packets
  packetsSent : session.transport.packetsSent = UInt32.ofNat told.replies.length

theorem Reaches.of_recut {config : Config} {told : Transcript κ} (h : other.Reaches config told)
    (hrecut : session.Recut other) : session.Reaches config told := by
  have hpending := hrecut.transport.stream.pending
  obtain ⟨_, rfl, stream, rfl, chunks, rfl, -⟩ := hrecut
  exact { h with
    faultless := ⟨h.faultless.ending, h.faultless.room, h.faultless.flush, h.faultless.shutdown⟩
    pending := hpending.trans h.pending }

theorem reaches_stopped [KeyExchange κ] (config : Config) (peer : String) (exchange : κ)
    (chunks : List Bytes) (counted : Nat) (ended : Except Fault SessionEnd) (rest : Bytes) :
    let session := fresh (.ofChunks chunks) config peer exchange
    Reaches { session with transport := session.transport.advance rest counted } config
      (.stopped ended 0 rest session.connection session.dispatcher) where
  connection := rfl
  dispatcher := rfl
  peerLine := rfl
  faultless := ⟨rfl, rfl, rfl, rfl⟩
  pending := Transport.pending_advance _ rest counted
  written := rfl
  flushes := rfl
  shutdowns := rfl
  packetsReceived := rfl
  packetsSent := rfl

theorem reaches_followed [KeyExchange κ] (config : Config) (peer : String) (exchange : κ)
    (chunks : List Bytes) (counted more : Nat) (line : String) (rest : Bytes)
    (later : Transcript κ) :
    let session := (fresh (.ofChunks chunks) config peer exchange).greeted counted line rest
    (session.followed more later).session.Reaches config (later.greeted peer line) where
  connection := rfl
  dispatcher := rfl
  peerLine := rfl
  faultless := ⟨rfl, rfl, rfl, rfl⟩
  pending := pending_past _ more later.packets later.replies later.rest _ _
  written := rfl
  flushes := Nat.add_comm 1 later.replies.length
  shutdowns := rfl
  packetsReceived := rfl
  packetsSent := UInt32.zero_add _

/-- A fresh session comes to where the transcript of its bytes ends. -/
theorem converse_fresh [KeyExchange κ] (config : Config) (peer : String) (exchange : κ)
    (chunks : List Bytes) :
    let finished := (fresh (.ofChunks chunks) config peer exchange).converse
    let told := Transcript.ofBytes config peer exchange chunks.flatten
    finished.result = told.ended ∧ finished.events = told.events ∧
      finished.session.Reaches config told := by
  intro finished told
  have hturn {cut : LineCut} (hcut : cutLine config.maxIdentificationLength chunks.flatten = cut) :=
    @turn_of_cutLine κ (fresh (.ofChunks chunks) config peer exchange) _ rfl
      (Stream.faultless_ofChunks chunks) cut hcut
  cases hcut : cutLine config.maxIdentificationLength chunks.flatten with
  | incomplete =>
    have htold : told = .stopped (.ok .peerClosed) 0 [] (.fresh config.channelPolicy peer)
        (.ofConfig config exchange) := by
      simp only [told, Transcript.ofBytes, hcut]
    obtain ⟨counted, hended⟩ := hturn hcut
    obtain ⟨hresult, hevents, hlast⟩ := converse_alike_of_ended hended
    rw [htold]
    exact ⟨hresult, hevents,
      (reaches_stopped config peer exchange chunks counted _ []).of_recut hlast⟩
  | tooLong length rest =>
    have htold : told = .stopped (.error (.identificationTooLong length)) 0 rest
        (.fresh config.channelPolicy peer) (.ofConfig config exchange) := by
      simp only [told, Transcript.ofBytes, hcut]
    obtain ⟨counted, hended⟩ := hturn hcut
    obtain ⟨hresult, hevents, hlast⟩ := converse_alike_of_ended hended
    rw [htold]
    exact ⟨hresult, hevents,
      (reaches_stopped config peer exchange chunks counted _ rest).of_recut hlast⟩
  | line text rest =>
    obtain ⟨counted, hgoes⟩ := hturn hcut
    obtain ⟨hresult, hevents, hlast⟩ := converse_alike_of_goes_on hgoes
    obtain ⟨more, hloop⟩ := @converse_as_packets κ
      ((fresh (.ofChunks chunks) config peer exchange).greeted counted (identificationText text) rest)
      0 rfl _ ⟨rfl, rfl, rfl, rfl⟩ rfl
    rw [pending_greeted] at hloop
    have htold : told = (Transcript.ofPackets config.maxPacketLength (.ofConfig config exchange)
        (.fresh config.channelPolicy peer) 0 rest).greeted peer (identificationText text) := by
      simp only [told, Transcript.ofBytes, hcut]
    rw [htold]
    refine ⟨hresult.trans hloop.result, hevents.trans (congrArg (_ :: ·) hloop.events), ?_⟩
    exact (reaches_followed config peer exchange chunks counted more _ rest _).of_recut
      (hlast.trans hloop.session)

theorem leave_of_faultless {session : Session κ} (h : session.transport.stream.Faultless) :
    session.leave = ({ session with
      connection := { session.connection with channels := session.connection.channels.clear }
      transport := { session.transport with stream := { session.transport.stream with
        shutdowns := session.transport.stream.shutdowns + 1 } }
      state := .closed }, []) := by
  simp only [leave, Transport.shutdown_of_faultless h]

theorem run_of_leave [KeyExchange κ] {session last : Session κ} {events : List Event}
    (h : session.converse.session.leave = (last, events)) :
    session.run = ⟨session.converse.result.map last.report, last,
      session.converse.events ++ events⟩ := by
  unfold Session.run
  simp only [h]

/-- A run that ended, wrote and left what a transcript tells. -/
structure Run.Shows (run : Run κ) (config : Config) (told : Transcript κ) : Prop where
  result : run.result = told.report
  events : run.events = told.events
  written : run.session.transport.stream.written = told.written config
  pending : run.session.transport.stream.pending = told.rest

theorem run_shows [KeyExchange κ] (config : Config) (peer : String) (exchange : κ)
    (chunks : List Bytes) :
    (fresh (.ofChunks chunks) config peer exchange).run.Shows config
      (.ofBytes config peer exchange chunks.flatten) := by
  obtain ⟨hresult, hevents, hreached⟩ := converse_fresh config peer exchange chunks
  rw [run_of_leave (leave_of_faultless hreached.faultless)]
  refine ⟨?_, ?_, hreached.written, hreached.pending⟩
  · show Except.map _ _ = _
    rw [hresult, Transcript.report]
    congr 1
    funext ended
    simp only [report, hreached.packetsReceived, hreached.packetsSent, hreached.connection,
      hreached.peerLine]
  · exact (List.append_nil _).trans hevents

/-- **A run refines the transcript.** Whatever the settings and the key exchange, a fresh session over
a stream that delivers its bytes in any chunks and meets no fault ends, answers and logs as the
transcript of the bytes tells, writes exactly the bytes told and leaves exactly the bytes told; it is
closed, with no channel open and its stream shut down once. -/
theorem run_as_transcript [KeyExchange κ] (config : Config) (peer : String) (exchange : κ)
    (chunks : List Bytes) :
    let run := (fresh (.ofChunks chunks) config peer exchange).run
    let told := Transcript.ofBytes config peer exchange chunks.flatten
    let stream := run.session.transport.stream
    (run.result = told.report ∧ run.events = told.events) ∧
    (stream.written = told.written config ∧ stream.pending = told.rest ∧
      stream.flushes = told.flushes ∧ stream.shutdowns = 1) ∧
    run.session.state = .closed ∧ run.session.peerLine = told.line ∧
    run.session.connection = { told.connection with channels := told.connection.channels.clear } ∧
    run.session.dispatcher = told.dispatcher := by
  intro run told stream
  obtain ⟨hresult, hevents, hreached⟩ := converse_fresh config peer exchange chunks
  have hrun : run = _ := run_of_leave (leave_of_faultless hreached.faultless)
  have hreport : run.session.report = fun ended => ⟨ended, UInt32.ofNat told.packets,
      UInt32.ofNat told.replies.length, told.connection.authenticated, told.line⟩ := by
    funext ended
    rw [hrun]
    simp only [report, hreached.packetsReceived, hreached.packetsSent, hreached.connection,
      hreached.peerLine, told]
  refine ⟨⟨?_, ?_⟩, ⟨?_, ?_, ?_, ?_⟩, ?_, ?_, ?_, ?_⟩
  · show Except.map run.session.report _ = _
    rw [hresult, hreport]
    rfl
  · rw [hrun]
    exact (List.append_nil _).trans hevents
  · simp only [stream, hrun]
    exact hreached.written
  · simp only [stream, hrun]
    exact hreached.pending
  · simp only [stream, hrun]
    exact hreached.flushes
  · simp only [stream, hrun, hreached.shutdowns]
  · rw [hrun]
  · rw [hrun]
    exact hreached.peerLine
  · simp only [hrun, hreached.connection, told]
  · rw [hrun]
    exact hreached.dispatcher

end Session
end MockSsh
