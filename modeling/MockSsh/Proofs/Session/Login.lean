import MockSsh.Proofs.Dispatch.Policies
import MockSsh.Proofs.Session.Faults
import MockSsh.Proofs.Stream.Operations

/-!
Being logged in and having been told so. The flag of the connection is set when a login request is
answered, and the answer is written afterwards. `Session.writes` notes every packet that a session tries
to write, with what became of it: exactly the sessions that are logged in have tried to announce it
(`Session.run_authenticated_iff`). Only the last write can fail, and then the session ends with its
fault; so the two come apart where that write is the first announcement
(`Session.run_authenticated_iff_unsent`), and nowhere else.
-/
namespace MockSsh

variable {κ : Type}

/-! ## One packet -/

/-- The packet does not announce that the login succeeded. -/
def Packet.Quiet (packet : Packet) : Prop :=
  packet.kind? ≠ some .authSuccess

theorem Packet.quiet_ofKind {kind : Message.Kind} (h : kind ≠ .authSuccess) (payload : Bytes) :
    (Packet.ofKind kind payload).Quiet := by
  show Message.Kind.ofNumber? kind.number ≠ _
  rw [Message.Kind.ofNumber?_number]
  exact fun heq => h (Option.some.inj heq)

namespace Dispatcher

theorem quiet_unsupportedAnswer (policy : UnsupportedPolicy) (inbound : Inbound) :
    (unsupportedAnswer policy inbound).All Packet.Quiet :=
  all_unsupportedAnswer policy (Packet.quiet_ofKind (by decide) _)
    (Packet.quiet_ofKind (by decide) _)

variable [KeyExchange κ]

/-- A request that logs in is told so at once. -/
theorem result_of_login {dispatcher : Dispatcher κ} {inbound : Inbound}
    (h : dispatcher.markers.logsIn inbound.packet = true) (connection : Connection) :
    (dispatcher.dispatch connection inbound).result = .ok (.reply Message.authSuccess) := by
  unfold Markers.logsIn at h
  unfold dispatch answer
  split at h
  · next hkind =>
    simp only [hkind]
    rw [result_authRequest, if_pos h]
  · cases h

/-- Nothing else is. -/
theorem quiet_of_no_login {dispatcher : Dispatcher κ} {connection : Connection} {inbound : Inbound}
    (h : dispatcher.markers.logsIn inbound.packet = false) {answer : Answer}
    (hanswer : (dispatcher.dispatch connection inbound).result = .ok answer) :
    answer.All Packet.Quiet := by
  refine all_of_result hanswer (fun kind payload hkind => ?_) (fun hlogsIn => ?_)
    (fun _ => quiet_unsupportedAnswer _ inbound)
  · exact Packet.quiet_ofKind (fun hsuccess => hkind (hsuccess ▸ List.mem_cons_self)) payload
  · cases h.symm.trans hlogsIn

end Dispatcher

/-! ## Writes -/

/-- The packets that are written, each with what became of it. -/
abbrev Writes := List (Packet × Except Fault Unit)

namespace Transport

/-- The packets are written in order, up to the first that fails. -/
def writes (transport : Transport) : List Packet → Writes
  | [] => []
  | packet :: rest =>
    match transport.writePacket packet with
    | (.error fault, _) => [(packet, .error fault)]
    | (.ok (), after) => (packet, .ok ()) :: after.writes rest

theorem mem_of_mem_writes {transport : Transport} {packets : List Packet} {packet : Packet}
    {result : Except Fault Unit} (h : (packet, result) ∈ transport.writes packets) :
    packet ∈ packets := by
  induction packets generalizing transport with
  | nil => cases h
  | cons first rest ih =>
    rw [writes] at h
    split at h
    · cases List.mem_singleton.mp h
      exact List.mem_cons_self
    · rcases List.mem_cons.mp h with heq | hlater
      · cases heq
        exact List.mem_cons_self
      · exact List.mem_cons_of_mem _ (ih hlater)

/-- A single packet is tried, whatever comes of it. -/
theorem exists_mem_writes_singleton (transport : Transport) (packet : Packet) :
    ∃ result, (packet, result) ∈ transport.writes [packet] := by
  rw [writes]
  split <;> exact ⟨_, List.mem_cons_self⟩

/-- A write that fails is the last, and its fault is the stream's. -/
theorem sendReplies_of_failed {transport : Transport} {packets : List Packet} {packet : Packet}
    {fault : Fault} (h : (packet, .error fault) ∈ transport.writes packets) (peer : String) :
    (Session.sendReplies peer packets transport).1 = .error fault ∧
      ∃ cause, fault = .stream cause := by
  induction packets generalizing transport with
  | nil => cases h
  | cons first rest ih =>
    rw [writes] at h
    rw [Session.sendReplies]
    rcases transport.writePacket_cases first with ⟨cause, hwrite⟩ | hwrite
    · rw [hwrite] at h ⊢
      cases List.mem_singleton.mp h
      exact ⟨rfl, cause, rfl⟩
    · rw [hwrite] at h ⊢
      rcases List.mem_cons.mp h with heq | hlater
      · cases heq
      · exact ih hlater

/-- What is counted as sent is what was written without a fault. -/
theorem packetsSent_sendReplies (transport : Transport) (peer : String) (packets : List Packet) :
    (Session.sendReplies peer packets transport).2.1.packetsSent
      = transport.packetsSent
        + UInt32.ofNat ((transport.writes packets).countP (·.2.isOk)) := by
  induction packets generalizing transport with
  | nil => exact (UInt32.add_zero _).symm
  | cons first rest ih =>
    rw [writes, Session.sendReplies]
    rcases transport.writePacket_cases first with ⟨cause, hwrite⟩ | hwrite
    · rw [hwrite]
      exact (UInt32.add_zero _).symm
    · rw [hwrite]
      simp only [ih, List.countP_cons, Except.isOk, Except.toBool, if_true]
      rw [UInt32.ofNat_add, UInt32.add_assoc, UInt32.add_comm (.ofNat _)]
      rfl

theorem packetsSent_writeBytes (transport : Transport) (bytes : Bytes) :
    (transport.writeBytes bytes).2.packetsSent = transport.packetsSent := by
  rcases transport.writeBytes_cases bytes with ⟨cause, hwrite⟩ | hwrite <;> rw [hwrite]

theorem packetsSent_readPacket (transport : Transport) (limit : Nat) :
    (transport.readPacket limit).2.packetsSent = transport.packetsSent := by
  obtain ⟨counted, hread⟩ := transport.readPacket_alike limit
  rw [hread.state.packetsSent]
  cases cutFrame limit transport.stream.pending <;> rfl

theorem packetsSent_readIdentification (transport : Transport) (limit : Nat) :
    (transport.readIdentification limit).2.packetsSent = transport.packetsSent := by
  obtain ⟨counted, hread⟩ := transport.readIdentification_alike limit
  rw [hread.state.packetsSent]
  cases cutLine limit transport.stream.pending <;> rfl

end Transport

namespace Session

variable [KeyExchange κ]

/-- The packets that are written in answer to what was read. -/
def answerWrites (session : Session κ) : Except Fault (Option Inbound) → Writes
  | .ok (some inbound) =>
    match (session.dispatcher.dispatch session.connection inbound).result with
    | .ok answer => session.transport.writes answer.replies
    | .error _ => []
  | _ => []

/-- The packets that are written in a turn that reads one. -/
def exchangeWrites (session : Session κ) : Writes :=
  let read := session.transport.readPacket session.config.maxPacketLength
  answerWrites { session with transport := read.2 } read.1

/-- The packets that are written in a turn. The server's own line is none. -/
def turnWrites (session : Session κ) : Writes :=
  match session.state with
  | .packetLoop => session.exchangeWrites
  | .versionExchange | .closed => []

/-- The packets that are written until the session ends, turn by turn. -/
def writes (session : Session κ) : Writes :=
  match _ : session.turn.ended with
  | some _ => session.turnWrites
  | none => session.turnWrites ++ session.turn.session.writes
termination_by session.transport.stream.unread
decreasing_by exact unread_turn session ‹_›

theorem writes_of_ended {session : Session κ} {result : Except Fault SessionEnd}
    (h : session.turn.ended = some result) : session.writes = session.turnWrites := by
  rw [writes]
  split <;> simp_all

theorem writes_of_goes_on {session : Session κ} (h : session.turn.ended = none) :
    session.writes = session.turnWrites ++ session.turn.session.writes := by
  rw [writes]
  split <;> simp_all

/-! ## From one packet to a conversation -/

omit [KeyExchange κ]

/-- From `session` to `after`, which has ended so unless it goes on, the packets were written. Who is
logged in was told so, or at least was to be told; a write that failed was the end; and the others were
counted. -/
structure Told (session after : Session κ) (ended : Option (Except Fault SessionEnd))
    (writes : Writes) : Prop where
  authenticated : after.connection.authenticated = true ↔
    session.connection.authenticated = true ∨
      ∃ packet result, (packet, result) ∈ writes ∧ packet.kind? = some .authSuccess
  failed : ∀ packet fault, (packet, .error fault) ∈ writes →
    ended = some (.error fault) ∧ ∃ cause, fault = .stream cause
  sent : after.transport.packetsSent
    = session.transport.packetsSent + UInt32.ofNat (writes.countP (·.2.isOk))

section Told

variable {session middle after : Session κ} {ended : Option (Except Fault SessionEnd)}

theorem Told.nothing
    (hflag : after.connection.authenticated = session.connection.authenticated)
    (hsent : after.transport.packetsSent = session.transport.packetsSent) :
    Told session after ended [] where
  authenticated := by simp [hflag]
  failed packet fault h := by cases h
  sent := hsent.trans (UInt32.add_zero _).symm

theorem Told.trans {writes later : Writes} (h : Told session middle none writes)
    (hlater : Told middle after ended later) : Told session after ended (writes ++ later) where
  authenticated := by
    rw [hlater.authenticated, h.authenticated]
    simp only [List.mem_append]
    grind
  failed packet fault hmem := by
    rcases List.mem_append.mp hmem with hfirst | hlast
    · cases (h.failed packet fault hfirst).1
    · exact hlater.failed packet fault hlast
  sent := by
    rw [hlater.sent, h.sent, List.countP_append, UInt32.ofNat_add, UInt32.add_assoc]

end Told

variable [KeyExchange κ]

/-- Of the replies to a packet one announces the success, if the packet logs the peer in, and none does
otherwise. -/
theorem exists_success_iff {dispatcher : Dispatcher κ} {connection : Connection} {inbound : Inbound}
    {answer : Answer} (h : (dispatcher.dispatch connection inbound).result = .ok answer)
    (transport : Transport) :
    (∃ packet result, (packet, result) ∈ transport.writes answer.replies ∧
      packet.kind? = some .authSuccess) ↔ dispatcher.markers.logsIn inbound.packet = true := by
  constructor
  · rintro ⟨packet, result, hmem, hkind⟩
    cases hlogsIn : dispatcher.markers.logsIn inbound.packet with
    | true => rfl
    | false =>
      have hquiet := Dispatcher.quiet_of_no_login hlogsIn h
      exact absurd hkind (hquiet packet (Transport.mem_of_mem_writes hmem))
  · intro hlogsIn
    cases (Dispatcher.result_of_login hlogsIn connection).symm.trans h
    obtain ⟨result, hmem⟩ := transport.exists_mem_writes_singleton Message.authSuccess
    exact ⟨_, result, hmem, rfl⟩

theorem told_answerPacket (session : Session κ) (inbound : Inbound) :
    Told session (session.answerPacket inbound).session (session.answerPacket inbound).ended
      (session.answerWrites (.ok (some inbound))) := by
  have hflag := congrArg Connection.authenticated
    (session.dispatcher.connection_dispatch session.connection inbound)
  unfold answerPacket answerWrites
  simp only
  cases hresult : (session.dispatcher.dispatch session.connection inbound).result with
  | error fault =>
    refine .nothing ?_ rfl
    cases hlogsIn : session.dispatcher.markers.logsIn inbound.packet with
    | true => cases (Dispatcher.result_of_login hlogsIn session.connection).symm.trans hresult
    | false =>
      rw [hlogsIn, Bool.or_false] at hflag
      exact hflag
  | ok answer =>
    have hsuccess := exists_success_iff hresult session.transport
    have hfailed {packet : Packet} {fault : Fault}
        (h : (packet, .error fault) ∈ session.transport.writes answer.replies) :=
      Transport.sendReplies_of_failed h session.connection.peer
    have hsent := session.transport.packetsSent_sendReplies session.connection.peer answer.replies
    have hauthenticated : (session.dispatcher.dispatch session.connection
        inbound).connection.authenticated = true ↔ session.connection.authenticated = true ∨
          ∃ packet result, (packet, result) ∈ session.transport.writes answer.replies ∧
            packet.kind? = some .authSuccess := by
      rw [hsuccess, hflag, Bool.or_eq_true]
    simp only
    generalize sendReplies session.connection.peer answer.replies session.transport = sending at *
    obtain ⟨result, after, events⟩ := sending
    cases result with
    | error fault =>
      refine ⟨hauthenticated, fun packet met hmem => ?_, hsent⟩
      obtain ⟨hmet, hcause⟩ := hfailed hmem
      cases hmet
      exact ⟨rfl, hcause⟩
    | ok _ =>
      refine ⟨hauthenticated, fun packet met hmem => ?_, hsent⟩
      cases (hfailed hmem).1

theorem told_answerRead (session : Session κ) (read : Except Fault (Option Inbound)) :
    Told session (session.answerRead read).session (session.answerRead read).ended
      (session.answerWrites read) := by
  rcases read with fault | _ | inbound
  · exact .nothing rfl rfl
  · exact .nothing rfl rfl
  · exact session.told_answerPacket inbound

omit [KeyExchange κ] in
theorem told_greet (session : Session κ) (read : Except Fault (Option String)) :
    Told session (session.greet read).session (session.greet read).ended [] := by
  rcases read with fault | _ | line
  · exact .nothing rfl rfl
  · exact .nothing rfl rfl
  · have hsent := session.transport.packetsSent_writeBytes (ownLine session.config)
    simp only [greet, Transport.writeIdentification]
    generalize session.transport.writeBytes (ownLine session.config) = write at hsent ⊢
    obtain ⟨result, after⟩ := write
    cases result with
    | error fault => exact .nothing rfl hsent
    | ok _ => exact .nothing rfl hsent

omit [KeyExchange κ] in
/-- What is read before does not count. -/
theorem Told.of_read {session after : Session κ} {ended : Option (Except Fault SessionEnd)}
    {writes : Writes} {transport : Transport}
    (hread : transport.packetsSent = session.transport.packetsSent)
    (h : Told { session with transport } after ended writes) : Told session after ended writes :=
  ⟨h.authenticated, h.failed, h.sent.trans (by rw [hread])⟩

/-- **One turn.** -/
theorem told_turn (session : Session κ) :
    Told session session.turn.session session.turn.ended session.turnWrites := by
  unfold turn turnWrites
  cases session.state with
  | closed => exact .nothing rfl rfl
  | versionExchange =>
    have hread := session.transport.packetsSent_readIdentification
      session.config.maxIdentificationLength
    simp only [exchangeVersions_eq_greet]
    exact .of_read hread (told_greet _ _)
  | packetLoop =>
    have hread := session.transport.packetsSent_readPacket session.config.maxPacketLength
    simp only [exchangePacket_eq_answerRead, exchangeWrites]
    exact .of_read hread (told_answerRead _ _)

/-- **A conversation**: the induction is on its turns. -/
theorem told_converse (session : Session κ) :
    Told session session.converse.session (some session.converse.result) session.writes := by
  induction session using turn_induction with
  | ended session result hended =>
    rw [converse_of_ended hended, writes_of_ended hended, ← hended]
    exact session.told_turn
  | goesOn session hgoes ih =>
    rw [converse_of_goes_on hgoes, writes_of_goes_on hgoes]
    have hturn := session.told_turn
    rw [hgoes] at hturn
    exact hturn.trans ih

/-! ## Runs -/

theorem authenticated_run (session : Session κ) :
    session.run.session.connection.authenticated
      = session.converse.session.connection.authenticated := by
  rw [run_session, leave_fst]

/-- A run whose write of a packet failed came to no report, but to that fault. -/
theorem result_of_failed {session : Session κ} {packet : Packet} {fault : Fault}
    (h : (packet, .error fault) ∈ session.writes) :
    session.run.result = .error fault ∧ ∃ cause, fault = .stream cause := by
  obtain ⟨hended, hcause⟩ := session.told_converse.failed packet fault h
  rw [result_run, Option.some.inj hended]
  exact ⟨rfl, hcause⟩

theorem authenticated_report {session : Session κ} {report : Report}
    (h : session.run.result = .ok report) :
    report.authenticated = session.run.session.connection.authenticated := by
  rw [result_run] at h
  rw [authenticated_run]
  cases hconverse : session.converse.result with
  | error fault =>
    rw [hconverse] at h
    cases h
  | ok ended =>
    rw [hconverse] at h
    cases h
    rfl

/-- Where an announcement was to be written, it was written or that write ended the run. -/
theorem exists_announcement_iff (session : Session κ) :
    (∃ packet result, (packet, result) ∈ session.writes ∧ packet.kind? = some .authSuccess) ↔
      (∃ packet, (packet, .ok ()) ∈ session.writes ∧ packet.kind? = some .authSuccess) ∨
      ∃ packet fault, (packet, .error fault) ∈ session.writes ∧
        packet.kind? = some .authSuccess ∧ session.run.result = .error fault := by
  constructor
  · rintro ⟨packet, result, hmem, hkind⟩
    cases result with
    | error fault => exact .inr ⟨packet, fault, hmem, hkind, (result_of_failed hmem).1⟩
    | ok _ => exact .inl ⟨packet, hmem, hkind⟩
  · rintro (⟨packet, hmem, hkind⟩ | ⟨packet, fault, hmem, hkind, -⟩)
    · exact ⟨packet, .ok (), hmem, hkind⟩
    · exact ⟨packet, .error fault, hmem, hkind⟩

/-- **Logged in, and told so.** After the run of a fresh session, whatever its stream meets, the peer is
logged in exactly if the announcement was written, or if the write of it failed and the run ended with
that fault. A write of a packet only fails with a fault of the stream, and that is how the run ends then.
So a report tells exactly whether the announcement was written; and the packets that were written are
those that the session has counted. -/
theorem run_authenticated_iff (stream : Stream) (config : Config) (peer : String) (exchange : κ) :
    let session := fresh stream config peer exchange
    let run := session.run
    (run.session.connection.authenticated = true ↔
      (∃ packet, (packet, .ok ()) ∈ session.writes ∧ packet.kind? = some .authSuccess) ∨
      ∃ packet fault, (packet, .error fault) ∈ session.writes ∧
        packet.kind? = some .authSuccess ∧ run.result = .error fault) ∧
    (∀ packet fault, (packet, .error fault) ∈ session.writes →
      run.result = .error fault ∧ ∃ cause, fault = .stream cause) ∧
    (∀ report, run.result = .ok report →
      (report.authenticated = true ↔
        ∃ packet, (packet, .ok ()) ∈ session.writes ∧ packet.kind? = some .authSuccess)) ∧
    run.session.transport.packetsSent = UInt32.ofNat (session.writes.countP (·.2.isOk)) := by
  intro session run
  obtain ⟨hauthenticated, -, hsent⟩ := session.told_converse
  have hunknown : ¬ session.connection.authenticated = true := Bool.false_ne_true
  rw [or_iff_right hunknown, ← authenticated_run, exists_announcement_iff] at hauthenticated
  refine ⟨hauthenticated, fun packet fault => result_of_failed, fun report hreport => ?_, ?_⟩
  · rw [authenticated_report hreport, hauthenticated, or_iff_left]
    -- a run that comes to a report met no fault of writing
    rintro ⟨packet, fault, -, -, hended⟩
    cases hreport.symm.trans hended
  · have hleft : run.session.transport.packetsSent
        = session.converse.session.transport.packetsSent := by
      rw [show run.session = _ from session.run_session, leave_fst]
    rw [hleft, hsent]
    exact UInt32.zero_add _

/-- A login request without markers, in a stream that takes everything. -/
theorem run_authenticated_iff_announced :
    let stream : Stream :=
      .ofChunks [[83, 83, 72, 45, 10], [0, 0, 0, 6, 0, 50, 110, 111, 110, 101]]
    let session := fresh stream .default "peer" Cleartext.fresh
    session.run.session.connection.authenticated = true ∧
      ∃ packet, (packet, .ok ()) ∈ session.writes ∧ packet.kind? = some .authSuccess := by
  intro stream session
  have hflag : session.run.session.connection.authenticated = true := by decide +kernel
  have hended : session.run.result.isOk = true := by decide +kernel
  obtain ⟨hauthenticated, -⟩ := run_authenticated_iff stream .default "peer" Cleartext.fresh
  refine ⟨hflag, (hauthenticated.mp hflag).resolve_right ?_⟩
  rintro ⟨packet, fault, -, -, hfault⟩
  rw [show session.run.result = _ from hfault] at hended
  cases hended

/-- The same request, in a stream that has room for the server's line alone: the peer is logged in, and
was told nothing. -/
theorem run_authenticated_iff_unsent :
    let fault : StreamFault := ⟨.timedOut, "scripted TimedOut"⟩
    let stream : Stream :=
      { Stream.ofChunks [[83, 83, 72, 45, 10], [0, 0, 0, 6, 0, 50, 110, 111, 110, 101]] with
        room := some 24, writeFault := some fault }
    let session := fresh stream .default "peer" Cleartext.fresh
    let run := session.run
    run.session.written = ownLine .default ∧
      session.writes = [(Message.authSuccess, .error (.stream fault))] ∧
      ¬ (run.session.connection.authenticated = true ↔
        ∃ packet, (packet, .ok ()) ∈ session.writes ∧ packet.kind? = some .authSuccess) := by
  intro fault stream session run
  have hflag : run.session.connection.authenticated = true := by decide +kernel
  have hwrites : session.writes = [(Message.authSuccess, .error (.stream fault))] := by
    decide +kernel
  refine ⟨by decide +kernel, hwrites, fun htold => ?_⟩
  obtain ⟨packet, hmem, -⟩ := htold.mp hflag
  rw [hwrites] at hmem
  cases List.mem_singleton.mp hmem

end Session
end MockSsh
