import Mathlib.Logic.Function.Iterate
import MockSsh.Proofs.Session.Faults

/-!
Running a session that is closed. It has no turn left, so that nothing is read or written and the run
ends with the fault of a closed session (`Session.run_of_left`). But every run leaves its session in the
same way, and to leave a session is to shut its stream down: however often the session is run again, that
is all that happens (`Session.run_again`), and it happens each time (`Session.run_again_shutdown`).
-/
namespace MockSsh
namespace Session

variable {κ : Type}

/-- A session that was left, and on which no channel is open. -/
structure Left (session : Session κ) : Prop where
  state : session.state = .closed
  entries : session.connection.channels.entries = []

/-- The same session, with its stream shut down `n` more times. -/
def shutDown (session : Session κ) (n : Nat) : Session κ :=
  { session with transport := { session.transport with
      stream := { session.transport.stream with
        shutdowns := session.transport.stream.shutdowns + n } } }

theorem Left.of_leave (session : Session κ) : session.leave.1.Left := by
  rw [leave_fst]
  exact ⟨rfl, rfl⟩

theorem Left.shutDown {session : Session κ} (h : session.Left) (n : Nat) :
    (session.shutDown n).Left :=
  ⟨h.state, h.entries⟩

/-- To leave a session that was left already changes nothing besides. -/
theorem Left.leave {session : Session κ} (h : session.Left) :
    session.leave.1 = session.shutDown 1 := by
  have hclear : session.connection.channels.clear = session.connection.channels := by
    rw [ChannelTable.clear, ← h.entries]
  rw [leave_fst, hclear, ← h.state]
  rfl

variable [KeyExchange κ]

theorem converse_of_closed {session : Session κ} (h : session.state = .closed) :
    session.converse = ⟨.error (.protocol .sessionClosed), session, []⟩ := by
  have hturn : session.turn = .failed session (.protocol .sessionClosed) [] := by
    rw [turn, h]
  rw [converse_of_ended (congrArg Turn.ended hturn), hturn]
  rfl

/-- **A run** of a session that was left fails, and shuts the stream down. -/
theorem Left.run {session : Session κ} (h : session.Left) :
    session.run.result = .error (.protocol .sessionClosed) ∧
      session.run.session = session.shutDown 1 := by
  constructor
  · rw [result_run, converse_of_closed h.state]
    rfl
  · rw [run_session, converse_of_closed h.state]
    exact h.leave

/-- **Closed for good.** However the first run ended, every later one fails alike. Together `n` of them
leave the session as the first one left it, closed and without an open channel: nothing was read, written
or flushed, no counter was moved, and whether the peer is logged in stays as it was. Only the stream was
shut down once more by each. -/
theorem run_again (session : Session κ) (n : Nat) :
    let closed := session.run.session
    let later := (fun session : Session κ => session.run.session)^[n] closed
    later.run.result = .error (.protocol .sessionClosed) ∧
      later = closed.shutDown n ∧
      later.state = .closed ∧ later.connection.channels.isEmpty := by
  intro closed later
  have hclosed : closed.Left := .of_leave session.converse.session
  have hlater : later = closed.shutDown n := by
    simp only [later]
    induction n with
    | zero => rfl
    | succ n ih =>
      rw [Function.iterate_succ_apply', ih]
      exact (hclosed.shutDown n).run.2
  have hleft : later.Left := by
    rw [hlater]
    exact hclosed.shutDown n
  refine ⟨hleft.run.1, hlater, hleft.state, ?_⟩
  rw [ChannelTable.isEmpty, hleft.entries]
  rfl

/-- On a stream without a byte the first run shuts the stream down, and so does the second. -/
theorem run_again_shutdown :
    let first := (fresh (.ofInput []) .default "peer" Cleartext.fresh).run.session
    let second := first.run.session
    first.state = .closed ∧ first.transport.stream.shutdowns = 1 ∧
      second.transport.stream.shutdowns = 2 ∧ second.transport ≠ first.transport := by
  decide +kernel

end Session
end MockSsh
