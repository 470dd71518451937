import MockSsh.Proofs.Session.Blame
import MockSsh.Proofs.Session.Log
import MockSsh.Proofs.Stream.Consumption

/-!
That every run ends, and how soon. A conversation takes its turns until one of them is the last
(`Session.exists_last_turn`), and all but two of them take a packet. A turn takes the bytes of the
line or six bytes at least for its packet (`Session.bytesRead_turn`) and reads no more often than it
takes bytes, unless it is the last (`Session.countReads_turn`). A run does both as its turns do.
-/
namespace MockSsh
namespace Session

variable {κ : Type}

/-- How many bytes the peer's line has, its line feed included, if the next turn takes it. -/
def lineSize (session : Session κ) : Nat :=
  match session.state,
    (session.transport.readIdentification session.config.maxIdentificationLength).1 with
  | .versionExchange, .ok (some _) => session.transport.stream.pending.idxOf Transport.lineFeed + 1
  | _, _ => 0

theorem lineSize_of_ne {session : Session κ} (h : session.state ≠ .versionExchange) :
    session.lineSize = 0 := by
  unfold lineSize
  split
  · exact absurd ‹_› h
  · rfl

/-! ## One turn -/

/-- The line is counted by the read that takes it. -/
theorem bytesRead_lineSize {session : Session κ} (h : session.state = .versionExchange) :
    session.transport.bytesRead + session.lineSize
      ≤ (session.transport.readIdentification
          session.config.maxIdentificationLength).2.bytesRead := by
  have hmore := session.transport.bytesRead_past_le
    [.readIdentification session.config.maxIdentificationLength]
  rw [lineSize, h]
  cases hread : session.transport.readIdentification session.config.maxIdentificationLength with
  | mk read after =>
    have hafter : session.transport.past
        [.readIdentification session.config.maxIdentificationLength] = after :=
      congrArg Prod.snd hread
    rw [hafter] at hmore
    rcases read with fault | _ | line
    · exact hmore
    · exact hmore
    · exact Nat.le_of_eq (Transport.bytesRead_readIdentification hread).symm

/-- So is a packet. -/
theorem bytesRead_incoming? {session : Session κ} (h : session.state = .packetLoop) :
    session.transport.bytesRead + 6 * session.incoming?.toList.length
      ≤ (session.transport.readPacket session.config.maxPacketLength).2.bytesRead := by
  have hmore := session.transport.bytesRead_past_le [.readPacket session.config.maxPacketLength]
  rw [incoming?_of_packetLoop h]
  cases hread : session.transport.readPacket session.config.maxPacketLength with
  | mk read after =>
    have hafter : session.transport.past [.readPacket session.config.maxPacketLength] = after :=
      congrArg Prod.snd hread
    rw [hafter] at hmore
    rcases read with fault | _ | inbound
    · exact hmore
    · exact hmore
    · exact Transport.bytesRead_readPacket hread

theorem isWrite_of_greetCalls (session : Session κ) (read : Except Fault (Option String)) :
    ∀ call ∈ session.greetCalls read, call.isWrite = true := by
  rcases read with fault | _ | line
  · exact List.forall_mem_nil _
  · exact List.forall_mem_nil _
  · exact List.forall_mem_singleton.mpr rfl

theorem isWrite_of_writing (writes : Writes) :
    ∀ call ∈ Transport.writing writes, call.isWrite = true :=
  List.forall_mem_map.mpr fun _ _ => rfl

/-- A session to which no line was given is left. -/
theorem unanswered_le_greet (session : Session κ) (read : Except Fault (Option String)) :
    Reading.unanswered read ≤ (session.greet read).ended.isSome.toNat := by
  rcases read with fault | _ | line
  · exact Nat.le_refl _
  · exact Nat.le_refl _
  · exact Nat.zero_le _

variable [KeyExchange κ]

theorem unanswered_le_answerRead (session : Session κ) (read : Except Fault (Option Inbound)) :
    Reading.unanswered read ≤ (session.answerRead read).ended.isSome.toNat := by
  rcases read with fault | _ | inbound
  · exact Nat.le_refl _
  · exact Nat.le_refl _
  · exact Nat.zero_le _

/-- **A turn** counts the bytes of the line that it takes, and six bytes or more for a packet. -/
theorem bytesRead_turn (session : Session κ) :
    session.transport.bytesRead + session.lineSize + 6 * session.incoming?.toList.length
      ≤ session.turn.session.transport.bytesRead := by
  rw [past_turnCalls]
  cases hstate : session.state with
  | closed =>
    have hnone : session.incoming? = none := by simp only [incoming?, hstate]
    rw [hnone, lineSize_of_ne (hstate ▸ SessionState.noConfusion)]
    exact session.transport.bytesRead_past_le _
  | versionExchange =>
    have hnone : session.incoming? = none := by simp only [incoming?, hstate]
    rw [hnone, turnCalls_of_versionExchange hstate]
    exact Nat.le_trans (bytesRead_lineSize hstate) (Transport.bytesRead_past_le _ _)
  | packetLoop =>
    rw [lineSize_of_ne (hstate ▸ SessionState.noConfusion), turnCalls_of_packetLoop hstate]
    exact Nat.le_trans (bytesRead_incoming? hstate) (Transport.bytesRead_past_le _ _)

/-- **The reads of a turn** are no more than the bytes that it takes, but for the last turn. -/
theorem countReads_turn (session : Session κ) :
    session.transport.countReads session.turnCalls + session.turn.session.transport.stream.unread
      ≤ session.transport.stream.unread + session.turn.ended.isSome.toNat := by
  rw [past_turnCalls]
  cases hstate : session.state with
  | closed =>
    rw [turnCalls, hstate]
    exact Nat.le_trans (Nat.le_of_eq (Nat.zero_add _)) (Nat.le_add_right _ _)
  | versionExchange =>
    have hreads := session.transport.length_sizes_lineReading session.config.maxIdentificationLength
    rw [turnCalls_of_versionExchange hstate, turn_of_versionExchange hstate]
    exact Transport.countReads_read_le rfl (isWrite_of_greetCalls session _)
      (Nat.le_trans hreads (Nat.add_le_add_left (unanswered_le_greet _ _) _))
  | packetLoop =>
    have hreads := session.transport.length_sizes_packetReading session.config.maxPacketLength
    rw [turnCalls_of_packetLoop hstate, turn_of_packetLoop hstate]
    exact Transport.countReads_read_le rfl (isWrite_of_writing _)
      (Nat.le_trans hreads (Nat.add_le_add_left (unanswered_le_answerRead _ _) _))

/-- A turn that goes on has taken a packet, or the peer's line, and stays in the packet loop. -/
theorem packetLoop_of_goes_on {session : Session κ} (h : session.turn.ended = none) :
    session.turn.session.state = .packetLoop ∧
      1 ≤ session.incoming?.toList.length + (session.state == .versionExchange).toNat := by
  rcases session.turn_cases with
    ⟨packet, transport, htakes⟩ | ⟨line, transport, hgreets⟩ | ⟨result, transport, hstops⟩
  · obtain ⟨⟨after, hafter, -⟩, -⟩ := answerPacket_eq { session with transport }
      ⟨session.transport.packetsReceived, packet⟩
    rw [htakes.turn, htakes.incoming, hafter]
    exact ⟨htakes.state, Nat.le_add_right _ _⟩
  · rw [hgreets.state]
    refine ⟨?_, Nat.le_add_left _ _⟩
    rw [hgreets.turn, greet] at h ⊢
    generalize Transport.writeIdentification _ _ = write at h ⊢
    obtain ⟨fault | _, after⟩ := write
    · cases h
    · rfl
  · rw [hstops.turn] at h
    cases h

/-! ## Conversations -/

/-- The session after a number of turns. -/
def afterTurns (session : Session κ) (turns : Nat) : Session κ :=
  (fun session => session.turn.session)^[turns] session

/-- **A conversation** comes to its last turn. All turns before it go on, and each of them has taken
a packet, but for the one that may have taken the peer's line. -/
theorem exists_last_turn (session : Session κ) :
    ∃ turns, turns ≤ session.decoded.length + (session.state == .versionExchange).toNat ∧
      (∀ earlier < turns, (session.afterTurns earlier).turn.ended = none) ∧
      (session.afterTurns turns).turn.ended = some session.converse.result ∧
      (session.afterTurns turns).turn.session = session.converse.session := by
  induction session using turn_induction with
  | ended session result hended =>
    rw [converse_of_ended hended]
    exact ⟨0, Nat.zero_le _, fun earlier h => absurd h earlier.not_lt_zero, hended, rfl⟩
  | goesOn session hgoes ih =>
    obtain ⟨hloop, hone⟩ := packetLoop_of_goes_on hgoes
    obtain ⟨turns, hbound, hearlier, hlast, hsession⟩ := ih
    rw [hloop] at hbound
    rw [converse_of_goes_on hgoes, decoded_of_goes_on hgoes, List.length_append]
    refine ⟨turns + 1, ?_, fun earlier h => ?_, hlast, hsession⟩
    · have hnone : (SessionState.packetLoop == .versionExchange).toNat = 0 := rfl
      omega
    · cases earlier with
      | zero => exact hgoes
      | succ earlier => exact hearlier earlier (Nat.lt_of_succ_lt_succ h)

/-- The bytes of the line and of the packets are counted: the induction is on the turns. -/
theorem bytesRead_converse (session : Session κ) :
    session.transport.bytesRead + session.lineSize + 6 * session.decoded.length
      ≤ session.converse.session.transport.bytesRead := by
  induction session using turn_induction with
  | ended session result hended =>
    rw [converse_of_ended hended, decoded_of_ended hended]
    exact session.bytesRead_turn
  | goesOn session hgoes ih =>
    have hturn := session.bytesRead_turn
    rw [converse_of_goes_on hgoes, decoded_of_goes_on hgoes, List.length_append]
    simp only
    omega

/-- **The reads of a conversation**: every turn but the last pays for its own. -/
theorem countReads_converse (session : Session κ) :
    session.transport.countReads (session.stages.flatMap turnCalls)
        + session.converse.session.transport.stream.unread
      ≤ session.transport.stream.unread + 1 := by
  induction session using turn_induction with
  | ended session result hended =>
    have hturn := session.countReads_turn
    rw [hended] at hturn
    rw [converse_of_ended hended, stages_of_ended hended, List.flatMap_singleton]
    exact hturn
  | goesOn session hgoes ih =>
    have hturn := session.countReads_turn
    rw [hgoes] at hturn
    rw [converse_of_goes_on hgoes, stages_of_goes_on hgoes, List.flatMap_cons,
      Transport.countReads_append, ← past_turnCalls]
    simp only [Option.isSome_none, Bool.toNat_false] at hturn ⊢
    omega

/-! ## Runs -/

/-- The log tells how many packets were taken. -/
theorem length_decoded (session : Session κ) :
    (session.run.events.filter (·.isArrival)).length = session.decoded.length := by
  have htells := session.tells_run (session.transport.packetsReceived.ofNat_toNat).symm
  have harrivals : session.run.events.filter (·.isArrival)
      = (session.run.events.filter (·.isHeard)).filter (·.isArrival) := by
    rw [List.filter_filter]
    refine List.filter_congr fun event _ => ?_
    cases event <;> rfl
  rw [harrivals, htells.heard, Event.filter_heard, List.length_map, List.length_zipIdx]

/-- **Every run ends**, whatever the settings, the key exchange and the stream, and soon. After no
more turns than there are packets in the log, and one, comes a turn that is the last, and the run
ends as that turn does. It counts as read the bytes of the peer's line, if it takes one, and at least
six bytes for every packet, and takes what it counts. And it reads no more often than it takes bytes,
but for one read that finds the end. -/
theorem run_ends (session : Session κ) :
    let packets := (session.run.events.filter (·.isArrival)).length
    let operations := session.transport.operations session.calls
    let before := session.transport
    let after := session.run.session.transport
    let counted := after.bytesRead - before.bytesRead
    let consumed := before.stream.unread - after.stream.unread
    (∃ turns ≤ packets + 1, (∀ earlier < turns, (session.afterTurns earlier).turn.ended = none) ∧
      ∃ ended, (session.afterTurns turns).turn.ended = some ended ∧
        session.run.session = (session.afterTurns turns).turn.session.leave.1 ∧
        session.run.result = ended.map session.run.session.report) ∧
    after.stream = before.stream.past operations ∧
    after.stream.unread ≤ before.stream.unread ∧
    operations.countP (·.isRead) ≤ consumed + 1 ∧
    session.lineSize + 6 * packets ≤ counted ∧
    counted ≤ consumed := by
  intro packets operations before after counted consumed
  have hpast : after = before.past session.calls := session.past_calls
  have hpackets : packets = session.decoded.length := session.length_decoded
  have hleft : after.stream.unread ≤ before.stream.unread := hpast ▸ before.unread_past_le _
  have hsupply : after.supply ≤ before.supply := hpast ▸ before.supply_past_le _
  -- to leave the session reads nothing
  have hafter : after = { session.converse.session.transport with
      stream := session.converse.session.transport.stream.shutdown.2 } := by
    simp only [after, run_session, leave_fst]
  have hread : before.bytesRead + session.lineSize + 6 * session.decoded.length ≤ after.bytesRead :=
    hafter ▸ session.bytesRead_converse
  have hreads : before.countReads (session.stages.flatMap turnCalls) + after.stream.unread
      ≤ before.stream.unread + 1 := hafter ▸ session.countReads_converse
  refine ⟨?_, ?_, hleft, ?_, ?_, ?_⟩
  · obtain ⟨turns, hbound, hearlier, hlast, hsession⟩ := session.exists_last_turn
    refine ⟨turns, ?_, hearlier, _, hlast, ?_, rfl⟩
    · have hone := (session.state == .versionExchange).toNat_le
      omega
    · rw [hsession, run_session]
  · rw [hpast, Transport.stream_past]
  · have hcount : operations.countP (·.isRead)
        = before.countReads (session.stages.flatMap turnCalls) := before.countReads_append _ _
    show _ ≤ before.stream.unread - after.stream.unread + 1
    omega
  · show _ ≤ after.bytesRead - before.bytesRead
    omega
  · show after.bytesRead - before.bytesRead ≤ before.stream.unread - after.stream.unread
    unfold Transport.supply at hsupply
    omega

end Session
end MockSsh
