import MockSsh.Proofs.Session.Refinement
import MockSsh.Proofs.Stream.Faults

/-!
A session over a stream with faults, beside the same session without them. Turn by turn the two are the
same, until a write meets a fault; there the session with faults ends, with the beginning of what the
other one has written by then (`Turn.Under`). What is written later by the other one does not change
that, so the relation holds of whole conversations (`converse_under`), and of runs.
-/
namespace MockSsh

variable {κ : Type}

/-- How a session ends under faults that without them would end so: where it found its peer gone, the
end of the bytes shows. -/
def Faults.ended (faults : Faults) : Except Fault SessionEnd → Except Fault SessionEnd
  | .ok .peerClosed =>
    (Transport.endOfRead faults.ending : Except Fault (Option Unit)).map fun _ => .peerClosed
  | ended => ended

/-- Nothing but that the bytes end so. -/
def Faults.ofEnding (ending : Option StreamFault) : Faults :=
  ⟨ending, none, none, none, 0, none⟩

namespace Session

/-- What the session has written. -/
def written (session : Session κ) : Bytes :=
  session.transport.stream.written

/-- The same session over its stream under faults. -/
def under (session : Session κ) (faults : Faults) : Session κ :=
  { session with transport := session.transport.under faults }

/-! ## Going on -/

theorem onward_greet (session : Session κ) (read : Except Fault (Option String)) :
    session.transport.stream.Onward (session.greet read).session.transport.stream := by
  rcases read with fault | _ | line
  · exact .refl _
  · exact .refl _
  · have hwrite := session.transport.onward_writeBytes (ownLine session.config)
    simp only [greet, Transport.writeIdentification]
    generalize session.transport.writeBytes _ = write at hwrite ⊢
    obtain ⟨result, after⟩ := write
    cases result <;> exact hwrite

variable [KeyExchange κ]

theorem onward_answerPacket (session : Session κ) (inbound : Inbound) :
    session.transport.stream.Onward (session.answerPacket inbound).session.transport.stream := by
  unfold answerPacket
  simp only
  split
  · exact .refl _
  · next answer _ =>
    have hsent := session.transport.onward_sendReplies session.connection.peer answer.replies
    split <;> exact hsent

theorem onward_answerRead (session : Session κ) (read : Except Fault (Option Inbound)) :
    session.transport.stream.Onward (session.answerRead read).session.transport.stream := by
  rcases read with fault | _ | inbound
  · exact .refl _
  · exact .refl _
  · exact session.onward_answerPacket inbound

theorem onward_turn (session : Session κ) :
    session.transport.stream.Onward session.turn.session.transport.stream := by
  unfold turn
  cases session.state with
  | closed => exact .refl _
  | versionExchange =>
    have hread := session.transport.drained_readIdentification
      session.config.maxIdentificationLength
    simp only [exchangeVersions_eq_greet]
    exact hread.onward.trans (onward_greet { session with transport := _ } _)
  | packetLoop =>
    have hread := session.transport.drained_readPacket session.config.maxPacketLength
    simp only [exchangePacket_eq_answerRead]
    exact hread.onward.trans (onward_answerRead { session with transport := _ } _)

theorem onward_converse (session : Session κ) :
    session.transport.stream.Onward session.converse.session.transport.stream := by
  induction session using turn_induction with
  | ended session result hended =>
    rw [converse_of_ended hended]
    exact session.onward_turn
  | goesOn session hgoes ih =>
    rw [converse_of_goes_on hgoes]
    exact session.onward_turn.trans ih

/-! ## One turn -/

omit [KeyExchange κ]

/-- The turn under faults, beside the turn without them. -/
inductive Turn.Under (faults : Faults) (free : Turn κ) : Turn κ → Prop
  | passes (h : faults.Passes free.session.transport.stream) :
      Under faults free ⟨free.ended.map faults.ended, free.session.under faults, free.events⟩
  | stops {fault : StreamFault} {session : Session κ} {events : List Event}
      (h : faults.Stops free.session.transport.stream fault session.written) :
      Under faults free ⟨some (.error (.stream fault)), session, events⟩

/-- Where nothing was read the end of the bytes shows, whatever is left to do with what was read. -/
theorem Turn.Under.nothing {faults : Faults} {session : Session κ} {α : Type}
    {rest : Except Fault (Option α) → Turn κ}
    (hclosed : rest (.ok none) = ⟨some (.ok .peerClosed), session.under faults, []⟩)
    (hfault : ∀ fault, rest (.error fault) = ⟨some (.error fault), session.under faults, []⟩)
    (h : faults.Passes session.transport.stream) :
    Turn.Under faults ⟨some (.ok .peerClosed), session, []⟩
      (rest (Transport.shown faults (.ok none))) := by
  have hended := @Turn.Under.passes κ faults ⟨some (.ok .peerClosed), session, []⟩ h
  rw [Transport.shown]
  rcases Transport.endOfRead_cases faults.ending with hend | ⟨fault, hend⟩
  · rw [hend, hclosed]
    rwa [Option.map_some, Faults.ended, hend] at hended
  · rw [hend, hfault]
    rwa [Option.map_some, Faults.ended, hend] at hended

section Turn

variable {session : Session κ} (h : session.transport.stream.Faultless) {faults : Faults}
  (hpasses : faults.Passes session.transport.stream)
include h hpasses

theorem greet_under (read : Except Fault (Option String)) :
    (session.greet read).Under faults ((session.under faults).greet (Transport.shown faults read)) := by
  rcases read with fault | _ | line
  · exact .passes hpasses
  · exact .nothing rfl (fun _ => rfl) hpasses
  · have hunder : (session.under faults).greet (.ok (some line))
        = greet { session with transport := session.transport.under faults } (.ok (some line)) := rfl
    rw [Transport.shown, hunder]
    simp only [greet, Transport.writeIdentification, Transport.writeBytes_of_accepting h.accepting]
    rcases Transport.writeBytes_under hpasses (ownLine session.config) with
      ⟨hwrite, hwrote⟩ | ⟨fault, last, hwrite, hstops⟩
    · simp only [hwrite]
      exact .passes hwrote
    · simp only [hwrite]
      exact .stops hstops

theorem exchangeVersions_under :
    session.exchangeVersions.Under faults (session.under faults).exchangeVersions := by
  have hread : (session.under faults).transport.readIdentification
      (session.under faults).config.maxIdentificationLength = _ :=
    Transport.readIdentification_under h.ending faults session.config.maxIdentificationLength
  have hdrained := session.transport.drained_readIdentification
    session.config.maxIdentificationLength
  rw [exchangeVersions_eq_greet, exchangeVersions_eq_greet, hread]
  exact @greet_under κ { session with transport := _ } (hdrained.faultless h) faults
    (hpasses.drained hdrained) _

variable [KeyExchange κ]

theorem answerPacket_under (inbound : Inbound) :
    (session.answerPacket inbound).Under faults
      ((session.under faults).answerPacket inbound) := by
  have hunder : (session.under faults).answerPacket inbound
      = answerPacket { session with transport := session.transport.under faults } inbound := rfl
  rw [hunder, answerPacket_of_accepting h.accepting]
  unfold answerPacket
  simp only
  generalize session.dispatcher.dispatch session.connection inbound = outcome
  cases outcome.result with
  | error fault => exact .passes hpasses
  | ok answer =>
    obtain ⟨replies, next⟩ := answer
    rcases Transport.sendReplies_under hpasses session.connection.peer replies with
      ⟨hsent, hall⟩ | ⟨fault, after, events, hsent, hstops⟩
    · simp only [hsent]
      cases next <;> exact .passes hall
    · simp only [hsent]
      exact .stops hstops

theorem answerRead_under (read : Except Fault (Option Inbound)) :
    (session.answerRead read).Under faults
      ((session.under faults).answerRead (Transport.shown faults read)) := by
  rcases read with fault | _ | inbound
  · exact .passes hpasses
  · exact .nothing rfl (fun _ => rfl) hpasses
  · exact answerPacket_under h hpasses inbound

theorem exchangePacket_under :
    session.exchangePacket.Under faults (session.under faults).exchangePacket := by
  have hread : (session.under faults).transport.readPacket
      (session.under faults).config.maxPacketLength = _ :=
    Transport.readPacket_under h.ending faults session.config.maxPacketLength
  have hdrained := session.transport.drained_readPacket session.config.maxPacketLength
  rw [exchangePacket_eq_answerRead, exchangePacket_eq_answerRead, hread]
  exact @answerRead_under κ { session with transport := _ } (hdrained.faultless h) faults
    (hpasses.drained hdrained) _ _

/-- **A turn under faults** does what it does without them, or a write in it stops at a fault. -/
theorem turn_under : session.turn.Under faults (session.under faults).turn := by
  unfold turn
  rw [show (session.under faults).state = session.state from rfl]
  cases session.state with
  | versionExchange => exact exchangeVersions_under h hpasses
  | packetLoop => exact exchangePacket_under h hpasses
  | closed => exact .passes hpasses

end Turn

/-! ## Conversations and runs -/

/-- The conversation under faults, beside the conversation without them. -/
inductive Finished.Under (faults : Faults) (free : Finished κ) : Finished κ → Prop
  | passes (h : faults.Passes free.session.transport.stream) :
      Under faults free ⟨faults.ended free.result, free.session.under faults, free.events⟩
  | stops {fault : StreamFault} {session : Session κ} {events : List Event}
      (h : faults.Stops free.session.transport.stream fault session.written) :
      Under faults free ⟨.error (.stream fault), session, events⟩

variable [KeyExchange κ]

/-- **A conversation under faults**: the induction is on the turns that it takes without them. -/
theorem converse_under {session : Session κ} (h : session.transport.stream.Faultless)
    {faults : Faults} (hpasses : faults.Passes session.transport.stream) :
    session.converse.Under faults (session.under faults).converse := by
  induction session using turn_induction with
  | ended session result hended =>
    have hturn := turn_under h hpasses
    rw [converse_of_ended hended]
    generalize hfaulty : (session.under faults).turn = faulty at hturn
    cases hturn with
    | passes hall =>
      -- the end of the bytes may show in how the turn ends, but it ends
      rw [hended] at hfaulty
      rw [converse_of_ended (congrArg Turn.ended hfaulty), hfaulty]
      exact .passes hall
    | stops hstops =>
      rw [converse_of_ended (congrArg Turn.ended hfaulty), hfaulty]
      exact .stops hstops
  | goesOn session hgoes ih =>
    have hturn := turn_under h hpasses
    have hlater := session.turn.session.onward_converse
    rw [converse_of_goes_on hgoes]
    generalize hfaulty : (session.under faults).turn = faulty at hturn
    cases hturn with
    | passes hall =>
      rw [hgoes] at hfaulty
      have hrest := ih (session.onward_turn.faultless h) hall
      rw [converse_of_goes_on (congrArg Turn.ended hfaulty), hfaulty]
      generalize (session.turn.session.under faults).converse = finished at hrest
      cases hrest with
      | passes hall => exact .passes hall
      | stops hstops => exact .stops hstops
    | stops hstops =>
      -- the later turns only write more
      rw [converse_of_ended (congrArg Turn.ended hfaulty), hfaulty]
      exact .stops (hstops.mono hlater.written hlater.flushes)

omit [KeyExchange κ] in
theorem leave_fst (session : Session κ) :
    session.leave.1 = { session with
      connection := { session.connection with channels := session.connection.channels.clear }
      transport := { session.transport with stream := session.transport.stream.shutdown.2 }
      state := .closed } := by
  have hshutdown : session.transport.shutdown.2
      = { session.transport with stream := session.transport.stream.shutdown.2 } := by
    unfold Transport.shutdown
    generalize session.transport.stream.shutdown = shutdown
    obtain ⟨fault, stream⟩ := shutdown
    cases fault with
    | none => rfl
    | some fault =>
      simp only
      split <;> rfl
  simp only [leave, hshutdown]

theorem run_session (session : Session κ) :
    session.run.session = session.converse.session.leave.1 := rfl

theorem events_run (session : Session κ) :
    session.run.events = session.converse.events ++ session.converse.session.leave.2 := rfl

theorem written_run (session : Session κ) :
    session.run.session.written = session.converse.session.written := by
  rw [run_session, leave_fst]
  rfl

theorem flushes_run (session : Session κ) :
    session.run.session.transport.stream.flushes
      = session.converse.session.transport.stream.flushes := by
  rw [run_session, leave_fst]
  rfl

theorem result_run (session : Session κ) :
    session.run.result = session.converse.result.map session.converse.session.report := by
  have hreport : session.converse.session.leave.1.report = session.converse.session.report := by
    rw [leave_fst]
    rfl
  rw [← hreport]
  rfl

/-- The run under faults, beside the run without them: it writes and flushes the same and ends as the
bytes end, or a write stops at a fault and is the end. -/
theorem run_under {session : Session κ} (h : session.transport.stream.Faultless) {faults : Faults}
    (hpasses : faults.Passes session.transport.stream) :
    let run := (session.under faults).run
    let free := session.converse
    (faults.Passes free.session.transport.stream ∧ run.session.written = free.session.written ∧
      run.session.transport.stream.flushes = free.session.transport.stream.flushes ∧
      run.result = (faults.ended free.result).map free.session.report) ∨
    ∃ fault, faults.Stops free.session.transport.stream fault run.session.written ∧
      run.result = .error (.stream fault) := by
  intro run free
  have hfinished := converse_under h hpasses
  simp only [run, written_run, flushes_run, result_run]
  generalize (session.under faults).converse = finished at hfinished ⊢
  cases hfinished with
  | passes hall => exact .inl ⟨hall, rfl, rfl, rfl⟩
  | stops hstops => exact .inr ⟨_, hstops, rfl⟩

/-- The run of a fresh session under faults. -/
theorem run_fresh_under (config : Config) (peer : String) (exchange : κ) (chunks : List Bytes)
    (faults : Faults) :
    let stream : Stream := { Stream.ofChunks chunks with
      ending := faults.ending
      room := faults.limit
      writeFault := faults.write
      flushFault := faults.flush
      steadyFlushes := faults.steady
      shutdownFault := faults.shutdown }
    let run := (fresh stream config peer exchange).run
    let free := (fresh (.ofChunks chunks) config peer exchange).converse
    (faults.Passes free.session.transport.stream ∧ run.session.written = free.session.written ∧
      run.session.transport.stream.flushes = free.session.transport.stream.flushes ∧
      run.result = (faults.ended free.result).map free.session.report) ∨
    ∃ fault, faults.Stops free.session.transport.stream fault run.session.written ∧
      run.result = .error (.stream fault) := by
  intro stream run free
  have hunder : (fresh (.ofChunks chunks) config peer exchange).under faults
      = fresh stream config peer exchange := by
    obtain ⟨ending, limit, write, flush, steady, shutdown⟩ := faults
    cases limit <;> rfl
  simp only [run, ← hunder]
  exact run_under (Stream.faultless_ofChunks chunks) (Faults.passes_fresh rfl rfl)

/-- Where nothing but the end of the bytes is a fault, nothing stops. -/
theorem run_fresh_ending (config : Config) (peer : String) (exchange : κ) (chunks : List Bytes)
    (ending : Option StreamFault) :
    let run := (fresh { Stream.ofChunks chunks with ending } config peer exchange).run
    let free := (fresh (.ofChunks chunks) config peer exchange).converse
    run.session.written = free.session.written ∧
      run.session.transport.stream.flushes = free.session.transport.stream.flushes ∧
      run.result = ((Faults.ofEnding ending).ended free.result).map free.session.report := by
  intro run free
  rcases run_fresh_under config peer exchange chunks (.ofEnding ending) with
    ⟨-, hwritten, hflushes, hresult⟩ | ⟨fault, hstops, -⟩
  · exact ⟨hwritten, hflushes, hresult⟩
  · obtain ⟨limit, hlimit, -⟩ := hstops.full_of_steady (.inl rfl)
    cases hlimit

/-- A fresh session flushes its stream if and only if it writes something. -/
theorem written_fresh_eq_nil_iff (config : Config) (peer : String) (exchange : κ)
    (chunks : List Bytes) :
    let free := (fresh (.ofChunks chunks) config peer exchange).converse
    free.session.written = [] ↔ free.session.transport.stream.flushes = 0 := by
  obtain ⟨-, -, hreached⟩ := converse_fresh config peer exchange chunks
  intro free
  rw [show free.session.written = _ from hreached.written, hreached.flushes]
  exact Transcript.written_eq_nil_iff _ config

/-- So the run shows what the transcript of the bytes tells, and then their end. -/
theorem run_of_ending (config : Config) (peer : String) (exchange : κ) (chunks : List Bytes)
    (ending : Option StreamFault) :
    let run := (fresh { Stream.ofChunks chunks with ending } config peer exchange).run
    let told := Transcript.ofBytes config peer exchange chunks.flatten
    run.session.written = told.written config ∧
      run.result = { told with ended := (Faults.ofEnding ending).ended told.ended }.report := by
  intro run told
  obtain ⟨hwritten, -, hresult⟩ := run_fresh_ending config peer exchange chunks ending
  obtain ⟨hended, -, hreached⟩ := converse_fresh config peer exchange chunks
  refine ⟨hwritten.trans hreached.written, hresult.trans ?_⟩
  rw [hended, Transcript.report]
  congr 1
  funext ended
  simp only [report, hreached.packetsReceived, hreached.packetsSent, hreached.connection,
    hreached.peerLine, told]

/-- **Every run is left**, whatever the stream meets: the session is closed, no channel is open, and the
stream is shut down once. -/
theorem run_left (session : Session κ) :
    session.run.session.state = .closed ∧ session.run.session.connection.channels.isEmpty ∧
      session.run.session.transport.stream.shutdowns
        = session.transport.stream.shutdowns + 1 := by
  rw [run_session, leave_fst]
  exact ⟨rfl, rfl, congrArg (· + 1) session.onward_converse.shutdowns⟩

/-- **A fault of writing only cuts the output.** Let a fresh session write `whole` over a stream on
which no write, flush or shutdown fails, however its bytes end. With room for `limit` bytes, it writes
the first `limit` bytes of `whole`, and ends with the fault of the write if that is less than `whole`,
else as it ended before. If flushing fails it writes a beginning of `whole`, and ends with a fault of the
stream unless nothing had to be written. If flushing fails only after a number of times, that decides
whether the run is cut: with fewer flushes than it makes on the stream without faults it ends with a
fault of the stream, and with as many, and enough room, it goes on as there. Whatever the stream meets,
the session is closed in the end, no channel is open, and the stream is shut down once. -/
theorem run_of_write_faults (config : Config) (peer : String) (exchange : κ) (chunks : List Bytes)
    (ending writeFault shutdownFault : Option StreamFault) :
    let stream : Stream := { Stream.ofChunks chunks with ending }
    let run (stream : Stream) : Run κ := (fresh stream config peer exchange).run
    let whole := (run stream).session.written
    let flushes := (run stream).session.transport.stream.flushes
    (∀ limit : Nat,
      let narrow := run { stream with room := some limit, writeFault, shutdownFault }
      narrow.session.written = whole.take limit ∧
      (limit < whole.length →
        narrow.result = .error (.stream (writeFault.getD .nothingWritten))) ∧
      (whole.length ≤ limit → narrow.result = (run stream).result)) ∧
    (∀ (room : Option Nat) (flushFault : StreamFault),
      let stuck := run { stream with
        room, writeFault, flushFault := some flushFault, shutdownFault }
      stuck.session.written <+: whole ∧
      (whole ≠ [] → ∃ fault, stuck.result = .error (.stream fault) ∧
        (room = none → fault = flushFault)) ∧
      (whole = [] → stuck.result = (run stream).result)) ∧
    (∀ (room : Option Nat) (flushFault : StreamFault) (steadyFlushes : Nat),
      let late := run { stream with
        room, writeFault, flushFault := some flushFault, steadyFlushes, shutdownFault }
      late.session.written <+: whole ∧
      (steadyFlushes < flushes → ∃ fault, late.result = .error (.stream fault) ∧
        (room = none → fault = flushFault)) ∧
      (flushes ≤ steadyFlushes → (∀ limit, room = some limit → whole.length ≤ limit) →
        late.session.written = whole ∧ late.result = (run stream).result)) ∧
    ∀ stream : Stream, (run stream).session.state = .closed ∧
      (run stream).session.connection.channels.isEmpty ∧
      (run stream).session.transport.stream.shutdowns = stream.shutdowns + 1 := by
  intro stream run whole flushes
  have hunder := run_fresh_under config peer exchange chunks
  obtain ⟨hwhole, hflushes, hresult⟩ := run_fresh_ending config peer exchange chunks ending
  have hsome := written_fresh_eq_nil_iff config peer exchange chunks
  -- every fault is told beside the one conversation without any
  generalize (fresh (.ofChunks chunks) config peer exchange).converse = free
    at hunder hwhole hflushes hresult hsome
  have hlate (room : Option Nat) (flushFault : StreamFault) (steadyFlushes : Nat) :
      let late := run { stream with
        room, writeFault, flushFault := some flushFault, steadyFlushes, shutdownFault }
      late.session.written <+: free.session.written ∧
      (steadyFlushes < free.session.transport.stream.flushes →
        ∃ fault, late.result = .error (.stream fault) ∧ (room = none → fault = flushFault)) ∧
      (free.session.transport.stream.flushes ≤ steadyFlushes →
        (∀ limit, room = some limit → free.session.written.length ≤ limit) →
        late.session.written = free.session.written ∧ late.result = (run stream).result) := by
    rcases hunder ⟨ending, room, writeFault, some flushFault, steadyFlushes, shutdownFault⟩ with
      ⟨hpasses, hall, -, hended⟩ | ⟨fault, hstops, hended⟩
    · have hsteady := hpasses.flush.resolve_left (Option.some_ne_none _)
      exact ⟨hall ▸ List.prefix_rfl, fun hspent => absurd hsteady (Nat.not_le.mpr hspent),
        fun _ _ => ⟨hall, hended.trans hresult.symm⟩⟩
    · refine ⟨hstops.begins, fun _ => ⟨fault, hended, fun hroom => ?_⟩, fun hsteady hfits => ?_⟩
      · exact (Option.some.inj (hstops.flush_of_unlimited hroom)).symm
      · obtain ⟨limit, hlimit, hlong, -⟩ := hstops.full_of_steady (.inr hsteady)
        exact absurd hlong (Nat.not_lt.mpr (hfits limit hlimit))
  rw [show whole = free.session.written from hwhole, show flushes = _ from hflushes]
  refine ⟨fun limit => ?_, fun room flushFault => ?_, hlate, fun stream => run_left _⟩
  · rcases hunder ⟨ending, some limit, writeFault, none, 0, shutdownFault⟩ with
      ⟨hpasses, hall, -, hended⟩ | ⟨fault, hstops, hended⟩
    · have hfits := hpasses.room limit rfl
      exact ⟨hall.trans (List.take_of_length_le hfits).symm,
        fun hlong => absurd hfits (Nat.not_le.mpr hlong), fun _ => hended.trans hresult.symm⟩
    · obtain ⟨_, ⟨⟩, hlong, rfl, hcut⟩ := hstops.full_of_steady (.inl rfl)
      exact ⟨hcut, fun _ => hended, fun hfits => absurd hlong (Nat.not_lt.mpr hfits)⟩
  · obtain ⟨hbegins, hfails, hpasses⟩ := hlate room flushFault 0
    refine ⟨hbegins, fun hwritten => hfails ?_, fun hnothing => (hpasses ?_ ?_).2⟩
    · exact Nat.pos_of_ne_zero fun hnone => hwritten (hsome.mpr hnone)
    · exact Nat.le_of_eq (hsome.mp hnothing)
    · simp [hnothing]

/-- A command, of whose three replies the second finds too little room; room for all of them; and a
stream that is never flushed, but for which the session had something to write. -/
theorem run_of_write_faults_within_reply :
    let stream : Stream := .ofChunks [[83, 83, 72, 45, 10, 0, 0, 0, 21, 0, 98, 0, 0, 0, 7, 0, 0],
      [0, 4, 101, 120, 101, 99, 1, 0, 0, 0, 2, 108, 115]]
    let fault : StreamFault := ⟨.timedOut, "timed out"⟩
    let run (stream : Stream) : Run Cleartext :=
      (fresh stream .default "peer" Cleartext.fresh).run
    let whole := (run stream).session.written
    let narrow := run { stream with room := some 50 }
    let wide := run { stream with room := some 86 }
    let stuck := run { stream with flushFault := some fault }
    (whole.length = 86 ∧ whole ≠ []) ∧
      (narrow.session.written = whole.take 50 ∧
        narrow.result = .error (.stream .nothingWritten)) ∧
      (wide.session.written = whole.take 86 ∧ wide.result = (run stream).result) ∧
      stuck.session.written <+: whole ∧ stuck.result = .error (.stream fault) := by
  intro stream fault run whole narrow wide stuck
  have hlength : whole.length = 86 := by decide +kernel
  have hsome : whole ≠ [] := List.ne_nil_of_length_pos (by omega)
  obtain ⟨hlimited, hflush, -⟩ :=
    run_of_write_faults .default "peer" Cleartext.fresh stream.chunks none none none
  obtain ⟨hcut, hshort, -⟩ := hlimited 50
  obtain ⟨hall, -, hlong⟩ := hlimited 86
  obtain ⟨hbegins, hfails, -⟩ := hflush none fault
  obtain ⟨met, hstuck, hmet⟩ := hfails hsome
  have hroom : 50 < whole.length := by omega
  refine ⟨⟨hlength, hsome⟩, ⟨hcut, hshort hroom⟩, ⟨hall, hlong (Nat.le_of_eq hlength)⟩, hbegins, ?_⟩
  rw [hmet rfl] at hstuck
  exact hstuck

end Session
end MockSsh
