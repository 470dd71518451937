import MockSsh.Proofs.Session.Stages

/-!
What the log of a connection says, beside what happened. The events that matter here are the marks:
that a packet came, that the peer is logged in, that a packet was sent, and how the connection
begins and ends. A turn that takes a packet says so once, then that the peer is logged in if it now
is, then what was delivered (`Session.marks_turn`); and the marks of a conversation are those of its
turns. So the packets in the log are those that were taken, under the numbers that they got, those
sent are the ones that were delivered, and the counters of the report are the numbers of both
(`log_of_serveStream`).
-/
namespace MockSsh

variable {κ : Type}

/-! ## Marks -/

namespace Event

/-- A packet came. -/
def isArrival : Event → Bool
  | packetReceived .. => true
  | _ => false

/-- The peer is logged in. -/
def isLogin : Event → Bool
  | authenticated .. => true
  | _ => false

/-- A packet was sent. -/
def isDelivery : Event → Bool
  | packetSent .. => true
  | _ => false

/-- The connection begins or ends. -/
def isBorder : Event → Bool
  | connectionAccepted .. | connectionClosed .. | connectionAborted .. => true
  | _ => false

/-- A packet came, or the peer is logged in. -/
def isHeard (event : Event) : Bool :=
  event.isArrival || event.isLogin

/-- One of these. -/
def isMark (event : Event) : Bool :=
  event.isHeard || event.isDelivery || event.isBorder

/-- To choose among the marks is to choose among all events. -/
theorem filter_of_marks {chosen : Event → Bool} (h : ∀ event, chosen event → event.isMark)
    {events marks : List Event} (hmarks : events.filter isMark = marks) :
    events.filter chosen = marks.filter chosen := by
  rw [← hmarks, List.filter_filter]
  refine List.filter_congr fun event _ => ?_
  cases hchosen : chosen event with
  | false => rfl
  | true => exact (h event hchosen).symm

/-- What is told of the packet that came with this index. -/
def arrival (peer : String) (entry : Packet × Nat) : Event :=
  .packetReceived peer (UInt32.ofNat entry.2) entry.1.number entry.1.payload.length

/-- What is told of a packet that logs the peer in. -/
def login (peer : String) (packet : Packet) : Event :=
  .authenticated peer ((userHint packet.payload).getD "")

/-- What is told of a packet that was sent. -/
def delivery (peer : String) (packet : Packet) : Event :=
  .packetSent peer packet.number packet.payload.length

theorem filter_received (peer : String) (index : Nat) (packet : Packet) :
    (received peer (UInt32.ofNat index) packet).filter isMark = [arrival peer (packet, index)] := rfl

theorem filter_sent (peer : String) (packets : List Packet) :
    (packets.flatMap (sent peer)).filter isMark = packets.map (delivery peer) := by
  induction packets with
  | nil => rfl
  | cons packet rest ih => exact congrArg (_ :: ·) ih

end Event

/-! ## One packet -/

namespace Connection

variable (connection : Connection)

theorem marks_authRequest (markers : Markers) (payload : Bytes) :
    (connection.authRequest markers payload).events.filter Event.isMark =
      if (markers.classify payload).authenticates && !connection.authenticated then
        [.authenticated connection.peer ((userHint payload).getD "")]
      else [] := by
  unfold authRequest
  simp only
  generalize (markers.classify payload).authenticates = logsIn, connection.authenticated = known
  cases logsIn <;> cases known <;> rfl

theorem marks_channelOpen (payload : Bytes) :
    (connection.channelOpen payload).events.filter Event.isMark = [] := by
  unfold channelOpen
  split
  · rfl
  · next message _ =>
    simp only [ChannelTable.openChannel]
    split
    · rfl
    · split <;> rfl

theorem marks_channelRequest (payload : Bytes) :
    (connection.channelRequest payload).events.filter Event.isMark = [] := by
  unfold channelRequest
  split
  · rfl
  · simp only
    split <;> rfl

theorem marks_channelData (payload : Bytes) :
    (connection.channelData payload).events.filter Event.isMark = [] := by
  unfold channelData
  split
  · rfl
  · simp only
    split <;> rfl

theorem marks_channelClose (payload : Bytes) :
    (connection.channelClose payload).events.filter Event.isMark = [] := by
  unfold channelClose
  split
  · rfl
  · simp only
    split <;> rfl

theorem marks_disconnect (payload : Bytes) :
    (connection.disconnect payload).events.filter Event.isMark = [] := by
  unfold disconnect
  split <;> rfl

theorem marks_serviceRequest (payload : Bytes) :
    (connection.serviceRequest payload).events.filter Event.isMark = [] := by
  unfold serviceRequest
  cases Message.ServiceRequest.parse payload <;> rfl

theorem marks_unsupported (policy : UnsupportedPolicy) (inbound : Inbound) :
    (connection.unsupported policy inbound).events.filter Event.isMark = [] := by
  cases policy <;> rfl

end Connection

namespace Dispatcher

variable [KeyExchange κ]

/-- **One packet** is told to log the peer in, if it does so and the peer was not logged in before.
-/
theorem marks_dispatch (dispatcher : Dispatcher κ) (connection : Connection) (inbound : Inbound) :
    (dispatcher.dispatch connection inbound).events.filter Event.isMark =
      if dispatcher.markers.logsIn inbound.packet && !connection.authenticated then
        [Event.login connection.peer inbound.packet]
      else [] := by
  unfold dispatch answer Markers.logsIn
  cases inbound.packet.kind? with
  | none => exact connection.marks_unsupported _ inbound
  | some kind =>
    cases kind with
    | authRequest => exact connection.marks_authRequest _ _
    | channelOpen => exact connection.marks_channelOpen _
    | channelRequest => exact connection.marks_channelRequest _
    | channelData => exact connection.marks_channelData _
    | channelClose => exact connection.marks_channelClose _
    | disconnect => exact connection.marks_disconnect _
    | serviceRequest => exact connection.marks_serviceRequest _
    | keyExchangeInit | newKeys =>
      simp only [keyExchangeInit, newKeys]
      split <;> rfl
    | ignore | unimplemented | debug | channelWindowAdjust | channelEnd => rfl
    | serviceAccept | authFailure | authSuccess | authPublicKeyOk | channelOpenConfirmation
    | channelSuccess => exact connection.marks_unsupported _ inbound

end Dispatcher

/-! ## One turn -/

namespace Event

/-- What is told of packets that come, the first of them under the index `index`: that each of them
came, and that the peer is logged in, unless that was `known`, by the first that does so. -/
def heard (peer : String) (markers : Markers) : Bool → Nat → List Packet → List Event
  | _, _, [] => []
  | known, index, packet :: rest =>
    arrival peer (packet, index)
      :: (if markers.logsIn packet && !known then [login peer packet] else [])
      ++ heard peer markers (known || markers.logsIn packet) (index + 1) rest

section Heard

variable (peer : String) (markers : Markers)

theorem heard_append (known : Bool) (index : Nat) (packets later : List Packet) :
    heard peer markers known index (packets ++ later) =
      heard peer markers known index packets
        ++ heard peer markers (known || packets.any markers.logsIn) (index + packets.length) later := by
  induction packets generalizing known index with
  | nil =>
    rw [List.any_nil, Bool.or_false]
    rfl
  | cons packet rest ih =>
    have hindex : index + 1 + rest.length = index + (packet :: rest).length := by
      rw [List.length_cons]
      omega
    rw [List.cons_append, heard, ih, hindex, List.any_cons, ← Bool.or_assoc, ← List.append_assoc]
    rfl

theorem isHeard_of_mem {known : Bool} {index : Nat} {packets : List Packet} {event : Event}
    (h : event ∈ heard peer markers known index packets) : event.isHeard = true := by
  induction packets generalizing known index with
  | nil => cases h
  | cons packet rest ih =>
    rw [heard] at h
    rcases List.mem_append.mp h with hfirst | hrest
    · rcases List.mem_cons.mp hfirst with rfl | hlogin
      · rfl
      · split at hlogin
        · obtain rfl := List.mem_singleton.mp hlogin
          rfl
        · cases hlogin
    · exact ih hrest

theorem filter_heard (known : Bool) (index : Nat) (packets : List Packet) :
    (heard peer markers known index packets).filter (·.isArrival)
      = (packets.zipIdx index).map (arrival peer) := by
  induction packets generalizing known index with
  | nil => rfl
  | cons packet rest ih =>
    rw [heard, List.filter_append, ih]
    split <;> rfl

/-- Who is known already is not told of again. -/
theorem heard_of_known (index : Nat) (packets : List Packet) :
    heard peer markers true index packets = (packets.zipIdx index).map (arrival peer) := by
  induction packets generalizing index with
  | nil => rfl
  | cons packet rest ih =>
    rw [heard, Bool.not_true, Bool.and_false, Bool.true_or, ih]
    rfl

theorem heard_of_no_login {packets : List Packet}
    (h : ∀ packet ∈ packets, markers.logsIn packet = false) (known : Bool) (index : Nat) :
    heard peer markers known index packets = (packets.zipIdx index).map (arrival peer) := by
  induction packets generalizing index with
  | nil => rfl
  | cons packet rest ih =>
    obtain ⟨hpacket, hrest⟩ := List.forall_mem_cons.mp h
    rw [heard, hpacket, Bool.false_and, Bool.or_false, ih hrest]
    rfl

/-- Otherwise it is told right behind the first packet that logs the peer in. -/
theorem heard_of_login {before later : List Packet} {packet : Packet}
    (h : ∀ packet ∈ before, markers.logsIn packet = false) (hlogin : markers.logsIn packet = true)
    (index : Nat) :
    heard peer markers false index (before ++ packet :: later) =
      (before.zipIdx index).map (arrival peer)
        ++ arrival peer (packet, index + before.length) :: login peer packet
        :: (later.zipIdx (index + before.length + 1)).map (arrival peer) := by
  have hbefore : before.any markers.logsIn = false := by
    rw [List.any_eq_false]
    intro packet hmem
    rw [h packet hmem]
    exact Bool.false_ne_true
  rw [heard_append, heard_of_no_login peer markers h, hbefore, heard, hlogin, Bool.or_true,
    heard_of_known]
  rfl

/-! Of what is told of packets that came and others that were sent, each part is found again. -/

section Marks

variable (known : Bool) (index : Nat) (packets sent : List Packet)

theorem filter_isHeard_marks :
    (heard peer markers known index packets ++ sent.map (delivery peer)).filter isHeard
      = heard peer markers known index packets := by
  have hheard : (heard peer markers known index packets).filter isHeard = _ :=
    List.filter_eq_self.mpr fun event hmem => isHeard_of_mem peer markers hmem
  have hsent : (sent.map (delivery peer)).filter isHeard = [] :=
    List.filter_eq_nil_iff.mpr (List.forall_mem_map.mpr fun packet _ => Bool.false_ne_true)
  rw [List.filter_append, hheard, hsent, List.append_nil]

theorem filter_isDelivery_marks :
    (heard peer markers known index packets ++ sent.map (delivery peer)).filter isDelivery
      = sent.map (delivery peer) := by
  have hheard : (heard peer markers known index packets).filter isDelivery = [] := by
    refine List.filter_eq_nil_iff.mpr fun event hmem => ?_
    have hevent := isHeard_of_mem peer markers hmem
    cases event <;> first | exact Bool.false_ne_true | cases hevent
  have hsent : (sent.map (delivery peer)).filter isDelivery = _ :=
    List.filter_eq_self.mpr (List.forall_mem_map.mpr fun packet _ => rfl)
  rw [List.filter_append, hheard, hsent, List.nil_append]

theorem filter_isBorder_marks :
    (heard peer markers known index packets ++ sent.map (delivery peer)).filter isBorder = [] := by
  refine List.filter_eq_nil_iff.mpr (List.forall_mem_append.mpr ⟨fun event hmem => ?_,
    List.forall_mem_map.mpr fun packet _ => Bool.false_ne_true⟩)
  have hevent := isHeard_of_mem peer markers hmem
  cases event <;> first | exact Bool.false_ne_true | cases hevent

end Marks

end Heard

end Event

namespace Session

variable [KeyExchange κ]

/-- **A turn** tells of the packet that it takes, and of those that it delivers. -/
theorem marks_turn (session : Session κ) {index : Nat}
    (hcount : session.transport.packetsReceived = UInt32.ofNat index) :
    session.turn.events.filter Event.isMark =
      Event.heard session.connection.peer session.dispatcher.markers
          session.connection.authenticated index session.incoming?.toList
        ++ (Writes.delivered session.turnWrites).map (Event.delivery session.connection.peer) := by
  rcases session.turn_cases with
    ⟨packet, transport, htakes⟩ | ⟨line, transport, hgreets⟩ | ⟨result, transport, hstops⟩
  · obtain ⟨-, hevents⟩ := answerPacket_eq { session with transport }
      ⟨session.transport.packetsReceived, packet⟩
    rw [htakes.turn, htakes.writes, htakes.incoming, hevents, List.filter_append,
      List.filter_append, Event.filter_sent, hcount, Event.filter_received,
      Dispatcher.marks_dispatch]
    simp only [Option.toList_some, Event.heard, List.append_nil]
    rfl
  · obtain ⟨-, hevents⟩ := greet_eq { session with transport } line
    rw [hgreets.turn, hgreets.writes, hgreets.incoming, hevents]
    rfl
  · rw [hstops.turn, hstops.writes, hstops.incoming]
    rfl

theorem authenticated_turn (session : Session κ) :
    session.turn.session.connection.authenticated =
      (session.connection.authenticated
        || session.incoming?.toList.any session.dispatcher.markers.logsIn) := by
  rcases session.turn_cases with
    ⟨packet, transport, htakes⟩ | ⟨line, transport, hgreets⟩ | ⟨result, transport, hstops⟩
  · obtain ⟨⟨after, hafter, -⟩, -⟩ := answerPacket_eq { session with transport }
      ⟨session.transport.packetsReceived, packet⟩
    have hflag := session.dispatcher.authenticated_dispatch session.connection
      ⟨session.transport.packetsReceived, packet⟩
    rw [htakes.turn, htakes.incoming, hafter, hflag, Option.toList_some, List.any_cons, List.any_nil,
      Bool.or_false]
  · obtain ⟨⟨after, state, hafter, -⟩, -⟩ := greet_eq { session with transport } line
    rw [hgreets.turn, hgreets.incoming, hafter]
    exact (Bool.or_false _).symm
  · rw [hstops.turn, hstops.incoming]
    exact (Bool.or_false _).symm

/-! ## Conversations -/

/-- The events tell of these packets, the first of them under the index, and of these writes. -/
structure Tells (session : Session κ) (index : Nat) (packets : List Packet) (writes : Writes)
    (events : List Event) : Prop where
  heard : events.filter (·.isHeard) = Event.heard session.connection.peer
    session.dispatcher.markers session.connection.authenticated index packets
  deliveries : events.filter (·.isDelivery)
    = (Writes.delivered writes).map (Event.delivery session.connection.peer)
  border : events.filter (·.isBorder) = []

theorem tells_turn (session : Session κ) {index : Nat}
    (hcount : session.transport.packetsReceived = UInt32.ofNat index) :
    session.Tells index session.incoming?.toList session.turnWrites session.turn.events := by
  have hmarks := session.marks_turn hcount
  refine ⟨?_, ?_, ?_⟩
  · rw [Event.filter_of_marks (fun event h => by simp [Event.isMark, h]) hmarks,
      Event.filter_isHeard_marks]
  · rw [Event.filter_of_marks (fun event h => by simp [Event.isMark, h]) hmarks,
      Event.filter_isDelivery_marks]
  · rw [Event.filter_of_marks (fun event h => by simp [Event.isMark, h]) hmarks,
      Event.filter_isBorder_marks]

/-- **A conversation** tells of its packets and its writes: the induction is on its turns, and
carries the number of the packets so far and whether the peer is logged in. -/
theorem tells_converse (session : Session κ) {index : Nat}
    (hcount : session.transport.packetsReceived = UInt32.ofNat index) :
    session.Tells index session.decoded session.writes session.converse.events := by
  induction session using turn_induction generalizing index with
  | ended session result hended =>
    rw [converse_of_ended hended, decoded_of_ended hended, writes_of_ended hended]
    exact session.tells_turn hcount
  | goesOn session hgoes ih =>
    obtain ⟨hkept, hnext⟩ := session.kept_turn
    rw [hcount, ← UInt32.ofNat_add] at hnext
    have hturn := session.tells_turn hcount
    have hrest := ih hnext
    rw [converse_of_goes_on hgoes, decoded_of_goes_on hgoes, writes_of_goes_on hgoes]
    refine ⟨?_, ?_, ?_⟩
    · rw [List.filter_append, hturn.heard, hrest.heard, hkept.peer, hkept.markers,
        authenticated_turn, ← Event.heard_append]
    · rw [List.filter_append, hturn.deliveries, hrest.deliveries, hkept.peer,
        Writes.delivered_append, List.map_append]
    · rw [List.filter_append, hturn.border, hrest.border, List.append_nil]

theorem packetsReceived_converse (session : Session κ) {index : Nat}
    (hcount : session.transport.packetsReceived = UInt32.ofNat index) :
    session.converse.session.transport.packetsReceived
      = UInt32.ofNat (index + session.decoded.length) := by
  induction session using turn_induction generalizing index with
  | ended session result hended =>
    obtain ⟨-, hnext⟩ := session.kept_turn
    rw [hcount, ← UInt32.ofNat_add] at hnext
    rw [converse_of_ended hended, decoded_of_ended hended]
    exact hnext
  | goesOn session hgoes ih =>
    obtain ⟨-, hnext⟩ := session.kept_turn
    rw [hcount, ← UInt32.ofNat_add] at hnext
    rw [converse_of_goes_on hgoes, decoded_of_goes_on hgoes, List.length_append, ← Nat.add_assoc]
    exact ih hnext

/-! ## Runs -/

omit [KeyExchange κ] in
theorem filter_leave (session : Session κ) : session.leave.2.filter Event.isMark = [] := by
  unfold leave
  simp only
  split <;> rfl

/-- To leave the session adds no mark. -/
theorem tells_run (session : Session κ) {index : Nat}
    (hcount : session.transport.packetsReceived = UInt32.ofNat index) :
    session.Tells index session.decoded session.writes session.run.events := by
  have htells := session.tells_converse hcount
  have hleave {chosen : Event → Bool} (h : ∀ event, chosen event → event.isMark) :=
    Event.filter_of_marks h session.converse.session.filter_leave
  rw [events_run]
  refine ⟨?_, ?_, ?_⟩
  · rw [List.filter_append, htells.heard, hleave fun event h => by simp [Event.isMark, h]]
    exact List.append_nil _
  · rw [List.filter_append, htells.deliveries, hleave fun event h => by simp [Event.isMark, h]]
    exact List.append_nil _
  · rw [List.filter_append, htells.border, hleave fun event h => by simp [Event.isMark, h]]
    rfl

/-- The report of a fresh session has the numbers of the packets that it took and delivered. -/
theorem counts_of_report {stream : Stream} {config : Config} {peer : String} {exchange : κ}
    {report : Report} (h : (fresh stream config peer exchange).run.result = .ok report) :
    report.packetsReceived
        = UInt32.ofNat (fresh stream config peer exchange).decoded.length ∧
      report.packetsSent
        = UInt32.ofNat (Writes.delivered (fresh stream config peer exchange).writes).length := by
  have hreceived : _ = UInt32.ofNat (0 + _) :=
    (fresh stream config peer exchange).packetsReceived_converse rfl
  have hsent := (fresh stream config peer exchange).told_converse.sent
  rw [Nat.zero_add] at hreceived
  rw [result_run] at h
  cases hended : (fresh stream config peer exchange).converse.result with
  | error fault =>
    rw [hended] at h
    cases h
  | ok ended =>
    rw [hended] at h
    cases h
    refine ⟨hreceived, hsent.trans ?_⟩
    rw [Writes.delivered, List.length_map, List.countP_eq_length_filter]
    exact UInt32.zero_add _

end Session

/-! ## Connections -/

/-- What is heard is all arrivals, and at the first login that too. -/
theorem Event.heard_cases (peer : String) (markers : Markers) (packets : List Packet) :
    let arrivals := packets.zipIdx.map (arrival peer)
    (∀ packet ∈ packets, markers.logsIn packet = false) ∧
        heard peer markers false 0 packets = arrivals ∨
      ∃ before packet later, packets = before ++ packet :: later ∧
        (∀ packet ∈ before, markers.logsIn packet = false) ∧ markers.logsIn packet = true ∧
        heard peer markers false 0 packets
          = arrivals.take (before.length + 1) ++ login peer packet
            :: arrivals.drop (before.length + 1) := by
  intro arrivals
  cases hfind : packets.find? markers.logsIn with
  | none =>
    have hnone : ∀ packet ∈ packets, markers.logsIn packet = false := by
      simpa using hfind
    exact .inl ⟨hnone, heard_of_no_login peer markers hnone false 0⟩
  | some packet =>
    obtain ⟨hlogin, before, later, rfl, hbefore⟩ := List.find?_eq_some_iff_append.mp hfind
    have hnone : ∀ packet ∈ before, markers.logsIn packet = false := by simpa using hbefore
    refine .inr ⟨before, packet, later, rfl, hnone, hlogin, ?_⟩
    let first := before.zipIdx.map (arrival peer) ++ [arrival peer (packet, before.length)]
    let rest := (later.zipIdx (before.length + 1)).map (arrival peer)
    have harrivals : arrivals = first ++ rest := by
      simp [arrivals, first, rest, List.zipIdx_append, List.zipIdx_cons]
    have hlength : first.length = before.length + 1 := by simp [first]
    rw [heard_of_login peer markers hnone hlogin, harrivals, List.take_left' hlength,
      List.drop_left' hlength]
    simp [first, rest]

/-- **The log of a connection**, whatever its stream meets. It begins with the connection and ends
with how that ended, and tells of neither in between. If there is a report the connection was closed
with it, else it was aborted by the fault. In between the log tells of every packet that was taken,
in their order and numbered from 0 in 32 bits; of every packet that was written and pushed out, in
their order; and the counters of the report are the numbers of both. That the peer is logged in is
told at most once: right after the first packet that is a login request and no probe, before any
other packet came. -/
theorem log_of_serveStream (stream : Stream) (config : Config) (peer : String) :
    let session := Session.fresh stream config peer Cleartext.fresh
    let served := serveStream stream config peer
    let delivered := (session.writes.filter (·.2.isOk)).map Prod.fst
    let arrivals := session.decoded.zipIdx.map fun entry =>
      Event.packetReceived peer (UInt32.ofNat entry.2) entry.1.number entry.1.payload.length
    let deliveries := delivered.map fun packet =>
      Event.packetSent peer packet.number packet.payload.length
    ∃ middle last, served.events = .connectionAccepted peer :: middle ++ [last] ∧
      (∀ event ∈ middle, event.isBorder = false) ∧
      (match served.report with
        | some report =>
          last = .connectionClosed peer report.ended.label report.packetsReceived
            report.packetsSent ∧
          report.packetsReceived = UInt32.ofNat arrivals.length ∧
          report.packetsSent = UInt32.ofNat deliveries.length
        | none => ∃ fault, session.run.result = .error fault ∧
          last = .connectionAborted peer fault) ∧
      middle.filter (·.isArrival) = arrivals ∧
      middle.filter (·.isDelivery) = deliveries ∧
      ((∀ packet ∈ session.decoded, config.markers.logsIn packet = false) ∧
          middle.filter (fun event => event.isArrival || event.isLogin) = arrivals ∨
        ∃ before packet later, session.decoded = before ++ packet :: later ∧
          (∀ packet ∈ before, config.markers.logsIn packet = false) ∧
          config.markers.logsIn packet = true ∧
          middle.filter (fun event => event.isArrival || event.isLogin)
            = arrivals.take (before.length + 1)
              ++ .authenticated peer ((userHint packet.payload).getD "")
              :: arrivals.drop (before.length + 1)) := by
  intro session served delivered arrivals deliveries
  have htells : session.Tells 0 _ _ _ := session.tells_run rfl
  obtain ⟨hheard, hdeliveries, hborder⟩ := htells
  refine ⟨session.run.events, .ofEnd peer session.run.result, rfl, ?_, ?_, ?_, hdeliveries, ?_⟩
  · simpa using hborder
  · have hreport : served.report = session.run.result.toOption := rfl
    have hcounts := @Session.counts_of_report Cleartext _ stream config peer Cleartext.fresh
    rw [hreport]
    cases hresult : session.run.result with
    | error fault => exact ⟨fault, rfl, rfl⟩
    | ok report =>
      obtain ⟨hreceived, hsent⟩ := hcounts hresult
      refine ⟨rfl, ?_, ?_⟩
      · rw [hreceived, List.length_map, List.length_zipIdx]
      · rw [hsent, List.length_map]
        rfl
  · have harrivals : session.run.events.filter (·.isArrival)
        = (session.run.events.filter (·.isHeard)).filter (·.isArrival) := by
      rw [List.filter_filter]
      refine List.filter_congr fun event _ => ?_
      cases event <;> rfl
    rw [harrivals, hheard, Event.filter_heard]
    rfl
  · rcases Event.heard_cases peer config.markers session.decoded with
      ⟨hnone, hall⟩ | ⟨before, packet, later, hdecoded, hnone, hlogin, hfirst⟩
    · exact .inl ⟨hnone, hheard.trans hall⟩
    · exact .inr ⟨before, packet, later, hdecoded, hnone, hlogin, hheard.trans hfirst⟩

end MockSsh
