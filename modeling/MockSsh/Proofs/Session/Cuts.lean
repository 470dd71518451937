import MockSsh.Proofs.Session.Turn
import MockSsh.Proofs.Stream.Cuts

/-!
A session over a stream does not notice where the bytes to come are cut into chunks. One turn on two
streams that differ only there ends alike and logs alike (`Recut.turn`); so do whole conversations
and runs, whatever faults the streams meet.
-/
namespace MockSsh
namespace Session

variable {κ : Type} {session other : Session κ}

/-- The same session over the same stream, perhaps cut in other places. -/
def Recut (session other : Session κ) : Prop :=
  ∃ transport, session = { other with transport } ∧ transport.Recut other.transport

theorem Recut.transport (h : session.Recut other) : session.transport.Recut other.transport := by
  obtain ⟨transport, rfl, htransport⟩ := h
  exact htransport

theorem Recut.trans {third : Session κ} (h : session.Recut other) (h' : other.Recut third) :
    session.Recut third := by
  obtain ⟨transport, rfl, htransport⟩ := h
  obtain ⟨otherTransport, rfl, hother⟩ := h'
  exact ⟨transport, rfl, htransport.trans hother⟩

/-! ## One turn -/

/-- Turns that end alike and log the same events. -/
inductive Turn.Alike : Turn κ → Turn κ → Prop
  | mk (ended : Option (Except Fault SessionEnd)) {session other : Session κ}
      (events : List Event) (h : session.Recut other) :
      Alike ⟨ended, session, events⟩ ⟨ended, other, events⟩

/-- What is the same of two turns that are alike. -/
theorem Turn.Alike.fields {turn otherTurn : Turn κ} (h : turn.Alike otherTurn) :
    turn.ended = otherTurn.ended ∧ turn.events = otherTurn.events ∧
      turn.session.Recut otherTurn.session := by
  cases h with
  | mk ended events hsession => exact ⟨rfl, rfl, hsession⟩

theorem Recut.greet (h : session.Recut other) (read : Except Fault (Option String)) :
    (session.greet read).Alike (other.greet read) := by
  rcases read with fault | _ | line
  · exact .mk _ _ h
  · exact .mk _ _ h
  · obtain ⟨transport, rfl, htransport⟩ := h
    have hwrite : Alike Transport.Recut (transport.writeIdentification (ownLine other.config))
        (other.transport.writeIdentification (ownLine other.config)) := htransport.writeBytes _
    unfold Session.greet
    simp only
    generalize transport.writeIdentification _ = written,
      other.transport.writeIdentification _ = otherWritten at hwrite ⊢
    cases hwrite with
    | mk answer hlast => cases answer <;> exact .mk _ _ ⟨_, rfl, hlast⟩

/-- What was read alike is greeted alike. -/
theorem greet_of_alike {read otherRead : Except Fault (Option String) × Transport}
    (h : Alike Transport.Recut read otherRead) :
    (Session.greet { session with transport := read.2 } read.1).Alike
      (Session.greet { session with transport := otherRead.2 } otherRead.1) := by
  cases h with
  | mk answer hafter =>
    have hsame : Session.Recut _ { session with transport := _ } := ⟨_, rfl, hafter⟩
    exact hsame.greet answer

theorem Recut.exchangeVersions (h : session.Recut other) :
    session.exchangeVersions.Alike other.exchangeVersions := by
  obtain ⟨transport, rfl, htransport⟩ := h
  rw [exchangeVersions_eq_greet, exchangeVersions_eq_greet]
  exact greet_of_alike (htransport.readIdentification _)

/-- The first turn, told by what it reads. -/
theorem turn_of_readIdentification [KeyExchange κ] (hstate : session.state = .versionExchange)
    {read : Except Fault (Option String)} {after : Transport}
    (h : Alike Transport.Recut
      (session.transport.readIdentification session.config.maxIdentificationLength)
      (read, after)) :
    session.turn.Alike (Session.greet { session with transport := after } read) := by
  rw [turn_of_versionExchange hstate]
  exact greet_of_alike h

/-- Replies go out alike, up to the same one. -/
theorem Recut.sendReplies {transport other : Transport} (h : transport.Recut other)
    (peer : String) (replies : List Packet) :
    ∃ result events after otherAfter, after.Recut otherAfter ∧
      Session.sendReplies peer replies transport = (result, after, events) ∧
      Session.sendReplies peer replies other = (result, otherAfter, events) := by
  induction replies generalizing transport other with
  | nil => exact ⟨.ok (), [], transport, other, h, rfl, rfl⟩
  | cons packet rest ih =>
    have hwrite := h.writePacket packet
    unfold Session.sendReplies
    generalize transport.writePacket packet = written,
      other.writePacket packet = otherWritten at hwrite ⊢
    cases hwrite with
    | @mk answer after otherAfter hafter =>
      cases answer with
      | error fault => exact ⟨.error fault, [], after, otherAfter, hafter, rfl, rfl⟩
      | ok _ =>
        obtain ⟨result, events, last, otherLast, hlast, heq, hother⟩ := ih hafter
        exact ⟨result, Event.sent peer packet ++ events, last, otherLast, hlast,
          by simp only [heq], by simp only [hother]⟩

theorem Recut.report (h : session.Recut other) : session.report = other.report := by
  obtain ⟨_, rfl, _, rfl, -⟩ := h
  rfl

/-- Two sessions that differ only in the cuts are left alike. -/
theorem Recut.leave (h : session.Recut other) :
    session.leave.2 = other.leave.2 ∧ session.leave.1.Recut other.leave.1 := by
  obtain ⟨transport, rfl, htransport⟩ := h
  have hshutdown := htransport.shutdown
  unfold Session.leave
  simp only
  generalize transport.shutdown = given, other.transport.shutdown = otherGiven at hshutdown ⊢
  cases hshutdown with
  | @mk answer after otherAfter hafter => exact ⟨rfl, after, rfl, hafter⟩

variable [KeyExchange κ]

theorem Recut.answerPacket (h : session.Recut other) (inbound : Inbound) :
    (session.answerPacket inbound).Alike (other.answerPacket inbound) := by
  obtain ⟨transport, rfl, htransport⟩ := h
  unfold Session.answerPacket
  simp only
  cases (other.dispatcher.dispatch other.connection inbound).result with
  | error fault => exact .mk _ _ ⟨_, rfl, htransport⟩
  | ok answer =>
    obtain ⟨result, events, after, otherAfter, hafter, heq, hother⟩ :=
      Recut.sendReplies htransport other.connection.peer answer.replies
    simp only [heq, hother]
    cases result with
    | error fault => exact .mk _ _ ⟨_, rfl, hafter⟩
    | ok _ => exact .mk _ _ ⟨_, rfl, hafter⟩

theorem Recut.answerRead (h : session.Recut other) (read : Except Fault (Option Inbound)) :
    (session.answerRead read).Alike (other.answerRead read) := by
  rcases read with fault | _ | inbound
  · exact .mk _ _ h
  · exact .mk _ _ h
  · exact h.answerPacket inbound

/-- What was read alike is answered alike. -/
theorem answerRead_of_alike {read otherRead : Except Fault (Option Inbound) × Transport}
    (h : Alike Transport.Recut read otherRead) :
    (Session.answerRead { session with transport := read.2 } read.1).Alike
      (Session.answerRead { session with transport := otherRead.2 } otherRead.1) := by
  cases h with
  | mk answer hafter =>
    have hsame : Session.Recut _ { session with transport := _ } := ⟨_, rfl, hafter⟩
    exact hsame.answerRead answer

theorem Recut.exchangePacket (h : session.Recut other) :
    session.exchangePacket.Alike other.exchangePacket := by
  obtain ⟨transport, rfl, htransport⟩ := h
  rw [exchangePacket_eq_answerRead, exchangePacket_eq_answerRead]
  exact answerRead_of_alike (htransport.readPacket _)

/-- A later turn, told by what it reads. -/
theorem turn_of_readPacket (hstate : session.state = .packetLoop)
    {read : Except Fault (Option Inbound)} {after : Transport}
    (h : Alike Transport.Recut (session.transport.readPacket session.config.maxPacketLength)
      (read, after)) :
    session.turn.Alike (Session.answerRead { session with transport := after } read) := by
  rw [turn_of_packetLoop hstate]
  exact answerRead_of_alike h

/-- **One turn** ends alike and logs alike, however the bytes are cut. -/
theorem Recut.turn (h : session.Recut other) : session.turn.Alike other.turn := by
  have hstate : session.state = other.state := by
    obtain ⟨transport, rfl, -⟩ := h
    rfl
  unfold Session.turn
  rw [hstate]
  cases other.state with
  | closed => exact .mk _ _ h
  | versionExchange => exact h.exchangeVersions
  | packetLoop => exact h.exchangePacket

/-! ## A whole run -/

/-- Conversations that came to the same end and logged the same events. -/
structure Finished.Alike (finished other : Finished κ) : Prop where
  result : finished.result = other.result
  events : finished.events = other.events
  session : finished.session.Recut other.session

omit [KeyExchange κ] in
theorem Finished.Alike.trans {finished other third : Finished κ} (h : finished.Alike other)
    (h' : other.Alike third) : finished.Alike third :=
  ⟨h.result.trans h'.result, h.events.trans h'.events, h.session.trans h'.session⟩

/-- Conversations take the same turns: the induction is on the turns of one of them. -/
theorem Recut.converse (h : session.Recut other) : session.converse.Alike other.converse := by
  induction session using turn_induction generalizing other with
  | ended session result hended =>
    obtain ⟨hsame, hevents, hafter⟩ := h.turn.fields
    have hother : other.turn.ended = some result := hsame ▸ hended
    rw [converse_of_ended hended, converse_of_ended hother]
    exact ⟨rfl, hevents, hafter⟩
  | goesOn session hgoes ih =>
    obtain ⟨hsame, hevents, hafter⟩ := h.turn.fields
    have hother : other.turn.ended = none := hsame ▸ hgoes
    obtain ⟨hresult, hrest, hlast⟩ := ih hafter
    rw [converse_of_goes_on hgoes, converse_of_goes_on hother, hevents, hrest]
    exact ⟨hresult, rfl, hlast⟩

/-- A run shows nothing of the cuts. -/
theorem Recut.run (h : session.Recut other) :
    session.run.result = other.run.result ∧ session.run.events = other.run.events ∧
      session.run.session.Recut other.run.session := by
  obtain ⟨hresult, hevents, hafter⟩ := h.converse
  obtain ⟨hleft, hlast⟩ := hafter.leave
  refine ⟨?_, ?_, hlast⟩
  · show session.converse.result.map session.converse.session.leave.1.report = _
    rw [hresult, hlast.report]
    rfl
  · show session.converse.events ++ session.converse.session.leave.2 = _
    rw [hevents, hleft]
    rfl

/-- **Chunking does not show.** On a stream of any faults, however its bytes are cut, a run of a
fresh session gives the same report or fault, logs the same events and leaves the same session; and
so does serving the connection. What was written, what is left unread, and how often the stream was
flushed and shut down is the same as well. -/
theorem run_of_same_bytes (stream : Stream) (config : Config) (peer : String) (exchange : κ)
    {chunks otherChunks : List Bytes} (h : chunks.flatten = otherChunks.flatten) :
    let run (chunks : List Bytes) : Run κ :=
      (Session.fresh { stream with chunks } config peer exchange).run
    let serve (chunks : List Bytes) : Served := serveStream { stream with chunks } config peer
    ((run chunks).result = (run otherChunks).result ∧
      (run chunks).events = (run otherChunks).events ∧
      (run chunks).session.Recut (run otherChunks).session ∧
      (run chunks).session.transport.stream.summary
        = (run otherChunks).session.transport.stream.summary) ∧
    ((serve chunks).report = (serve otherChunks).report ∧
      (serve chunks).events = (serve otherChunks).events ∧
      (serve chunks).stream.summary = (serve otherChunks).stream.summary) := by
  intro run serve
  have hrecut : Stream.Recut { stream with chunks } { stream with chunks := otherChunks } :=
    ⟨chunks, rfl, h⟩
  have hfresh {ι : Type} (exchange : ι) :
      (Session.fresh { stream with chunks } config peer exchange).Recut
        (Session.fresh { stream with chunks := otherChunks } config peer exchange) :=
    ⟨_, rfl, _, rfl, hrecut⟩
  obtain ⟨hresult, hevents, hlast⟩ := (hfresh exchange).run
  refine ⟨⟨hresult, hevents, hlast, hlast.transport.stream.summary⟩, ?_⟩
  obtain ⟨hserved, hlogged, hleft⟩ := (hfresh Cleartext.fresh).run
  refine ⟨?_, ?_, hleft.transport.stream.summary⟩
  · show Except.toOption _ = _
    rw [hserved]
    rfl
  · show Event.connectionAccepted peer :: _ ++ [Event.ofEnd peer _] = _
    rw [hserved, hlogged]
    rfl

/-- A line cut in its middle and before its line feed, in front of half a header, on a stream that
then times out, has no room for the server's line and refuses the shutdown. -/
theorem run_of_same_bytes_timed_out :
    let stream : Stream := { Stream.ofInput [] with
      ending := some ⟨.timedOut, "timed out"⟩
      room := some 12
      shutdownFault := some ⟨.permissionDenied, "denied"⟩ }
    let whole : List Bytes := [[83, 83, 72, 45, 50, 13, 10, 0, 0]]
    let pieces : List Bytes := [[83, 83, 72], [45, 50, 13], [10, 0], [0]]
    let run (chunks : List Bytes) : Run Cleartext :=
      (Session.fresh { stream with chunks } .default "peer" Cleartext.fresh).run
    whole.flatten = pieces.flatten ∧ (run whole).result = (run pieces).result ∧
      (run whole).events = (run pieces).events ∧
      (run whole).session.transport.stream.summary
        = (run pieces).session.transport.stream.summary := by
  intro stream whole pieces run
  have hbytes : whole.flatten = pieces.flatten := rfl
  obtain ⟨⟨hresult, hevents, -, hsummary⟩, -⟩ :=
    run_of_same_bytes stream .default "peer" Cleartext.fresh hbytes
  exact ⟨hbytes, hresult, hevents, hsummary⟩

end Session
end MockSsh
