import MockSsh.Proofs.Dispatch.Ownership
import MockSsh.Proofs.Session.Closed
import MockSsh.Proofs.Session.Stages
import MockSsh.Proofs.Stream.Blame

/-!
Who is to blame for the fault of a run. A session does nothing to its stream but the calls of its
turns and the shutdown at the end (`Session.past_calls`). Where a turn ends with a fault, either an
operation of that turn has raised it, or no operation has met a fault and bytes of the peer are to
blame (`Session.ends_turn`); and turns that went on met no fault before. So a first run blames the
right side. A later run fails because the session is closed, which is told as a fault of the peer,
though nothing was read any more (`Session.Left.operations`).
-/
namespace MockSsh

variable {κ : Type}

/-! ## Replies -/

namespace Transport

/-- The calls that write packets. -/
def writing (writes : Writes) : List Call :=
  writes.map fun write => .writePacket write.1

/-- **Replies** are sent by writing them. -/
theorem sendReplies_past (transport : Transport) (peer : String) (packets : List Packet) :
    (Session.sendReplies peer packets transport).2.1
      = transport.past (writing (transport.writes packets)) := by
  induction packets generalizing transport with
  | nil => rfl
  | cons packet rest ih =>
    rw [Session.sendReplies, writes]
    cases hwrite : transport.writePacket packet with
    | mk result after =>
      have hafter : Step.after ⟨transport, .writePacket packet⟩ = after :=
        congrArg Prod.snd hwrite
      rcases result with fault | _
      · exact hafter.symm
      · simp only [ih]
        rw [← hafter]
        rfl

/-- No write has met a fault, or the one that is given was raised. -/
theorem blame_sendReplies (transport : Transport) (peer : String) (packets : List Packet) :
    let trace := transport.trace (writing (transport.writes packets))
    (Session.sendReplies peer packets transport).1 = .ok () ∧ Stream.Untroubled trace ∨
      ∃ fault, (Session.sendReplies peer packets transport).1 = .error fault ∧
        Stream.Raised trace fault := by
  induction packets generalizing transport with
  | nil => exact .inl ⟨rfl, Stream.untroubled_nil⟩
  | cons packet rest ih =>
    have hfirst := transport.blame_writePacket packet
    rw [Session.sendReplies, writes]
    cases hwrite : transport.writePacket packet with
    | mk result after =>
      have hafter : Step.after ⟨transport, .writePacket packet⟩ = after :=
        congrArg Prod.snd hwrite
      rw [hwrite] at hfirst
      rcases result with fault | _
      · rcases hfirst with ⟨hok, -⟩ | ⟨_, ⟨⟩, hraised⟩
        · cases hok
        · refine .inr ⟨fault, rfl, ?_⟩
          simp only [writing, List.map_cons, List.map_nil, trace_cons]
          exact hraised.append_left _
      · rcases hfirst with ⟨-, huntroubled⟩ | ⟨_, ⟨⟩, -⟩
        simp only [writing, List.map_cons, trace_cons, hafter]
        rcases ih after with ⟨hok, hrest⟩ | ⟨fault, herror, hraised⟩
        · exact .inl ⟨hok, huntroubled.append hrest⟩
        · exact .inr ⟨fault, herror, hraised.append_right _⟩

end Transport

/-! ## Turns -/

/-- The trace accounts for the end of a turn, or of a conversation: no fault was met where it goes
on, and a fault that ends it is to be blamed. -/
inductive Stream.Ends (trace : List Stream.Performed) : Option (Except Fault SessionEnd) → Prop
  | goesOn (h : Untroubled trace) : Ends trace none
  | left (ended : SessionEnd) : Ends trace (some (.ok ended))
  | failed {fault : Fault} (h : Blamed trace fault) : Ends trace (some (.error fault))

theorem Stream.Ends.blamed {trace : List Stream.Performed} {fault : Fault}
    (h : Ends trace (some (.error fault))) : Blamed trace fault := by
  cases h with
  | failed hblamed => exact hblamed

theorem Stream.Ends.append_right {trace later : List Stream.Performed}
    {ended : Option (Except Fault SessionEnd)} (h : Ends later ended) (htrace : Untroubled trace) :
    Ends (trace ++ later) ended := by
  cases h with
  | goesOn hlater => exact .goesOn (htrace.append hlater)
  | left ended => exact .left ended
  | failed hblamed => exact .failed (hblamed.append_right htrace)

namespace Session

/-- The calls in answer to the peer's line. -/
def greetCalls (session : Session κ) : Except Fault (Option String) → List Transport.Call
  | .ok (some _) => [.writeIdentification (ownLine session.config)]
  | _ => []

theorem greet_past (session : Session κ) (read : Except Fault (Option String)) :
    (session.greet read).session.transport = session.transport.past (session.greetCalls read) := by
  rcases read with fault | _ | line
  · rfl
  · rfl
  · show _ = (session.transport.writeIdentification (ownLine session.config)).2
    rw [greet]
    generalize session.transport.writeIdentification (ownLine session.config) = write
    obtain ⟨_ | _, after⟩ := write <;> rfl

theorem ends_greet (session : Session κ) {trace : List Stream.Performed}
    {read : Except Fault (Option String)} (h : Stream.Accounts trace read) :
    Stream.Ends (trace ++ session.transport.trace (session.greetCalls read))
      (session.greet read).ended := by
  cases h with
  | failed hblamed =>
    rw [show session.transport.trace (session.greetCalls (.error _)) = [] from rfl,
      List.append_nil]
    exact .failed hblamed
  | nothing => exact .left .peerClosed
  | @given line huntroubled =>
    have hwrite := session.transport.blame_writeBytes (ownLine session.config)
    have htrace : session.transport.trace (session.greetCalls (.ok (some line)))
        = session.transport.stream.trace
          (session.transport.writeOperations (ownLine session.config)) := by
      rw [Transport.trace, greetCalls, Transport.operations_cons]
      exact congrArg _ (List.append_nil _)
    rw [htrace, greet, Transport.writeIdentification]
    generalize session.transport.writeBytes (ownLine session.config) = write at hwrite ⊢
    obtain ⟨result, after⟩ := write
    rcases hwrite with ⟨⟨⟩, hwrote⟩ | ⟨fault, ⟨⟩, hraised⟩
    · exact .goesOn (huntroubled.append hwrote)
    · exact .failed (.inl (hraised.append_right _))

section AnswerRead

variable [KeyExchange κ]

theorem answerRead_past (session : Session κ) (read : Except Fault (Option Inbound)) :
    (session.answerRead read).session.transport
      = session.transport.past (Transport.writing (session.answerWrites read)) := by
  rcases read with fault | _ | inbound
  · rfl
  · rfl
  · simp only [answerRead, answerPacket, answerWrites]
    cases (session.dispatcher.dispatch session.connection inbound).result with
    | error fault => rfl
    | ok answer =>
      have hsending := session.transport.sendReplies_past session.connection.peer answer.replies
      simp only [← hsending]
      generalize sendReplies session.connection.peer answer.replies session.transport = sending
      obtain ⟨_ | _, after, events⟩ := sending <;> rfl

end AnswerRead

/-- Without keys a packet that cannot be answered is the peer's fault. -/
theorem ends_answerRead (session : Session Cleartext) {trace : List Stream.Performed}
    {read : Except Fault (Option Inbound)} (h : Stream.Accounts trace read) :
    Stream.Ends
      (trace ++ session.transport.trace (Transport.writing (session.answerWrites read)))
      (session.answerRead read).ended := by
  have hnothing : session.transport.trace (Transport.writing []) = [] := rfl
  cases h with
  | failed hblamed =>
    rw [show session.answerWrites (.error _) = [] from rfl, hnothing, List.append_nil]
    exact .failed hblamed
  | nothing => exact .left .peerClosed
  | @given inbound huntroubled =>
    simp only [answerRead, answerPacket, answerWrites]
    cases hresult : (session.dispatcher.dispatch session.connection inbound).result with
    | error fault =>
      obtain ⟨⟨cause, rfl⟩, -⟩ := Dispatcher.flaw_of_error hresult
      simp only [hnothing, List.append_nil]
      exact .failed (.inr ⟨huntroubled, rfl⟩)
    | ok answer =>
      have hsending := session.transport.blame_sendReplies session.connection.peer answer.replies
      simp only
      generalize sendReplies session.connection.peer answer.replies session.transport = sending
        at hsending ⊢
      obtain ⟨result, after, events⟩ := sending
      rcases hsending with ⟨⟨⟩, hsent⟩ | ⟨fault, ⟨⟩, hraised⟩
      · have hall := huntroubled.append hsent
        cases answer.next with
        | proceed => exact .goesOn hall
        | peerDisconnected message => exact .left .peerDisconnected
        | policyDisconnect => exact .left .policyDisconnect
      · exact .failed (.inl (hraised.append_right _))

section Turn

variable [KeyExchange κ]

/-- The calls on the transport that the next turn makes. -/
def turnCalls (session : Session κ) : List Transport.Call :=
  match session.state with
  | .closed => []
  | .versionExchange =>
    let limit := session.config.maxIdentificationLength
    .readIdentification limit :: session.greetCalls (session.transport.readIdentification limit).1
  | .packetLoop =>
    .readPacket session.config.maxPacketLength :: Transport.writing session.exchangeWrites

theorem turnCalls_of_versionExchange {session : Session κ} (h : session.state = .versionExchange) :
    session.turnCalls =
      let limit := session.config.maxIdentificationLength
      .readIdentification limit
        :: session.greetCalls (session.transport.readIdentification limit).1 := by
  rw [turnCalls, h]

theorem turnCalls_of_packetLoop {session : Session κ} (h : session.state = .packetLoop) :
    session.turnCalls =
      .readPacket session.config.maxPacketLength :: Transport.writing session.exchangeWrites := by
  rw [turnCalls, h]

/-- The calls on the transport of a run: those of the turns, and the shutdown. -/
def calls (session : Session κ) : List Transport.Call :=
  session.stages.flatMap turnCalls ++ [.shutdown]

theorem past_turnCalls (session : Session κ) :
    session.turn.session.transport = session.transport.past session.turnCalls := by
  cases hstate : session.state with
  | closed =>
    rw [turn, turnCalls, hstate]
    rfl
  | versionExchange =>
    rw [turn_of_versionExchange hstate, turnCalls_of_versionExchange hstate]
    exact greet_past { session with transport := (session.transport.readIdentification _).2 } _
  | packetLoop =>
    rw [turn_of_packetLoop hstate, turnCalls_of_packetLoop hstate]
    exact answerRead_past { session with transport := (session.transport.readPacket _).2 } _

/-- **A run** leaves the transport as its calls leave it. -/
theorem past_calls (session : Session κ) :
    session.run.session.transport = session.transport.past session.calls := by
  have hconverse : session.converse.session.transport
      = session.transport.past (session.stages.flatMap turnCalls) := by
    induction session using turn_induction with
    | ended session result hended =>
      rw [converse_of_ended hended, stages_of_ended hended, List.flatMap_singleton, past_turnCalls]
    | goesOn session hgoes ih =>
      rw [converse_of_goes_on hgoes, stages_of_goes_on hgoes, List.flatMap_cons,
        Transport.past_append, ← past_turnCalls]
      exact ih
  rw [calls, Transport.past_append, ← hconverse, run_session, leave_fst]
  exact (Transport.shutdown_snd _).symm

end Turn

/-- **A turn** that goes on has met no fault, and one that fails has raised its fault or was brought
to it by the peer. -/
theorem ends_turn (session : Session Cleartext) (h : session.state ≠ .closed) :
    Stream.Ends (session.transport.trace session.turnCalls) session.turn.ended := by
  cases hstate : session.state with
  | closed => exact absurd hstate h
  | versionExchange =>
    have hread := session.transport.accounts_readIdentification
      session.config.maxIdentificationLength
    rw [turn_of_versionExchange hstate, turnCalls_of_versionExchange hstate, Transport.trace_cons]
    exact ends_greet { session with transport := (session.transport.readIdentification _).2 } hread
  | packetLoop =>
    have hread := session.transport.accounts_readPacket session.config.maxPacketLength
    rw [turn_of_packetLoop hstate, turnCalls_of_packetLoop hstate, Transport.trace_cons]
    exact ends_answerRead { session with transport := (session.transport.readPacket _).2 } hread

theorem state_turn {session : Session κ} [KeyExchange κ] (h : session.state ≠ .closed) :
    session.turn.session.state ≠ .closed := by
  rcases session.turn_cases with
    ⟨packet, transport, htakes⟩ | ⟨line, transport, hgreets⟩ | ⟨result, transport, hstops⟩
  · obtain ⟨⟨after, hafter, -⟩, -⟩ := answerPacket_eq { session with transport }
      ⟨session.transport.packetsReceived, packet⟩
    rw [htakes.turn, hafter]
    exact h
  · obtain ⟨⟨after, state, hafter, hstate, -⟩, -⟩ := greet_eq { session with transport } line
    rw [hgreets.turn, hafter]
    rcases hstate with rfl | rfl
    · exact h
    · exact SessionState.noConfusion
  · rw [hstops.turn]
    exact h

/-- **A conversation**: the induction is on its turns. -/
theorem ends_converse (session : Session Cleartext) (h : session.state ≠ .closed) :
    Stream.Ends (session.transport.trace (session.stages.flatMap turnCalls))
      (some session.converse.result) := by
  induction session using turn_induction with
  | ended session result hended =>
    have hturn := session.ends_turn h
    rw [hended] at hturn
    rw [converse_of_ended hended, stages_of_ended hended, List.flatMap_singleton]
    exact hturn
  | goesOn session hgoes ih =>
    have hturn := session.ends_turn h
    rw [hgoes] at hturn
    obtain ⟨huntroubled⟩ := hturn
    rw [converse_of_goes_on hgoes, stages_of_goes_on hgoes, List.flatMap_cons, Transport.trace_append,
      ← past_turnCalls]
    exact (ih (state_turn h)).append_right huntroubled

/-! ## Runs -/

/-- A fresh session begins with the first byte of the line. -/
theorem operations_fresh [KeyExchange κ] (stream : Stream) (config : Config) (peer : String)
    (exchange : κ) :
    let session := fresh stream config peer exchange
    ∃ rest, session.transport.operations (session.stages.flatMap turnCalls) = .read 1 :: rest := by
  intro session
  have hstages : ∃ later, session.stages = session :: later := by
    rw [stages]
    split
    · exact ⟨[], rfl⟩
    · exact ⟨_, rfl⟩
  obtain ⟨later, hlater⟩ := hstages
  have hsizes (allowed : Nat) : ∃ rest,
      (Transport.lineReading allowed []).sizes session.transport = 1 :: rest := by
    cases allowed <;> rw [Transport.lineReading, Reading.sizes] <;> exact ⟨_, rfl⟩
  obtain ⟨rest, hrest⟩ := hsizes (session.config.maxIdentificationLength - 1)
  rw [hlater, List.flatMap_cons, Transport.operations_append, turnCalls_of_versionExchange rfl,
    Transport.operations_cons]
  simp only [Transport.Step.operations, hrest, List.map_cons, List.cons_append]
  exact ⟨_, rfl⟩

/-- What the first run of a session does to its stream, and whom it blames. -/
theorem blame_of_fresh (stream : Stream) (config : Config) (peer : String) (exchange : Cleartext)
    {fault : Fault} (h : (fresh stream config peer exchange).run.result = .error fault) :
    let session := fresh stream config peer exchange
    let performed := session.transport.trace session.calls
    let after := session.run.session
    Stream.Raised performed fault ∨
      fault.isPeerFault = true ∧ after.transport.stream.unread < stream.unread ∧
        ∀ operation cause, (operation, some cause) ∈ performed → operation = .shutdown := by
  intro session performed after
  have hends := session.ends_converse SessionState.noConfusion
  have hresult : session.converse.result = .error fault := by
    rw [result_run] at h
    cases hconverse : session.converse.result with
    | error met =>
      rw [hconverse] at h
      cases h
      rfl
    | ok ended =>
      rw [hconverse] at h
      cases h
  rw [hresult] at hends
  have hperformed : performed = session.transport.trace (session.stages.flatMap turnCalls) ++ _ :=
    session.transport.trace_append _ _
  rw [hperformed]
  rcases hends.blamed with hraised | ⟨huntroubled, hpeer⟩
  · exact .inl (hraised.append_left _)
  · refine .inr ⟨hpeer, ?_, fun operation cause hmem => ?_⟩
    · -- the run has read the first byte, and the shutdown reads nothing
      obtain ⟨rest, hfirst⟩ := operations_fresh stream config peer exchange
      rw [Transport.trace, hfirst] at huntroubled
      have htaken := huntroubled.unread_add_le
      have hafter : after.transport.stream = (stream.past (.read 1 :: rest)).shutdown.2 := by
        have hcalls := congrArg Transport.stream session.past_calls
        rw [calls, Transport.past_append, Transport.stream_past, Transport.stream_past, hfirst] at hcalls
        exact hcalls
      rw [hafter]
      exact htaken
    · rcases List.mem_append.mp hmem with hturns | hshutdown
      · cases huntroubled _ hturns
      · exact congrArg Prod.fst (List.mem_singleton.mp hshutdown)

/-- A session that was left asks nothing of its stream but to be shut down. -/
theorem Left.operations [KeyExchange κ] {session : Session κ} (h : session.Left) :
    session.transport.operations session.calls = [.shutdown] := by
  have hturn : session.turn = .failed session (.protocol .sessionClosed) [] := by
    rw [turn, h.state]
  have hcalls : session.calls = [.shutdown] := by
    rw [calls, stages_of_ended (congrArg Turn.ended hturn), List.flatMap_singleton, turnCalls, h.state]
    rfl
  rw [hcalls]
  rfl

/-- **Whom a run blames.** A session is run for the first time, or again after `n` runs, without a
key exchange; these operations on its stream are all that it does there. Its fault is none of the
settings. If the fault is not the peer's it was raised by one of the operations, which met it and
did not take it for an orderly close. If it is the peer's and this was the first run, bytes of the
peer were read, and no operation but the shutdown at the end has met any fault. Every later run ends
with the fault of a closed session, and does nothing but shut the stream down. -/
theorem blame_of_runs (stream : Stream) (config : Config) (peer : String) (exchange : Cleartext)
    (n : Nat) :
    let before := (fun session : Session Cleartext => session.run.session)^[n]
      (fresh stream config peer exchange)
    let operations := before.transport.operations before.calls
    let performed := before.transport.stream.trace operations
    let after := before.run.session
    after.transport.stream = before.transport.stream.past operations ∧
    ∀ fault, before.run.result = .error fault →
      (∀ cause, fault ≠ .config cause) ∧
      (fault.isPeerFault = false → ∃ operation cause, (operation, some cause) ∈ performed ∧
        operation.isOrderly cause = false ∧ fault = .stream cause) ∧
      (fault.isPeerFault = true → n = 0 →
        after.transport.stream.unread < before.transport.stream.unread ∧
        ∀ operation cause, (operation, some cause) ∈ performed → operation = .shutdown) ∧
      (n ≠ 0 → fault = .protocol .sessionClosed ∧ operations = [.shutdown]) := by
  intro before operations performed after
  refine ⟨?_, fun fault hfault => ?_⟩
  · rw [show after.transport = _ from before.past_calls, Transport.stream_past]
  · cases n with
    | zero =>
      have hfirst := blame_of_fresh stream config peer exchange hfault
      refine ⟨fun cause hconfig => ?_, fun hown => ?_, fun hpeer _ => ?_, absurd rfl⟩
      · subst hconfig
        rcases hfirst with ⟨operation, met, -, -, hstream⟩ | ⟨hpeer, -⟩
        · cases hstream
        · cases hpeer
      · rcases hfirst with hraised | ⟨hpeer, -⟩
        · exact hraised
        · cases hown.symm.trans hpeer
      · rcases hfirst with ⟨operation, met, -, -, rfl⟩ | ⟨-, hread, hmet⟩
        · cases hpeer
        · exact ⟨hread, hmet⟩
    | succ n =>
      have hleft : before.Left := by
        simp only [before, Function.iterate_succ_apply']
        exact .of_leave _
      cases hleft.run.1.symm.trans hfault
      exact ⟨fun cause => Fault.noConfusion, fun hown => absurd hown.symm Bool.false_ne_true,
        fun _ hzero => absurd hzero n.succ_ne_zero, fun _ => ⟨rfl, hleft.operations⟩⟩

/-- On a stream without a byte the first run finds the peer gone. The second run blames the peer,
and has read nothing. -/
theorem blame_of_runs_closed :
    let session := (fresh (.ofInput []) .default "peer" Cleartext.fresh).run.session
    session.transport.stream.unread = 0 ∧
    ∃ fault, session.run.result = .error fault ∧ fault.isPeerFault = true ∧
      ¬ session.run.session.transport.stream.unread < session.transport.stream.unread := by
  intro session
  have hempty : session.transport.stream.unread = 0 := by decide +kernel
  have hleft : session.Left := .of_leave _
  refine ⟨hempty, .protocol .sessionClosed, hleft.run.1, rfl, ?_⟩
  rw [hempty]
  exact Nat.not_lt_zero _

end Session
end MockSsh
