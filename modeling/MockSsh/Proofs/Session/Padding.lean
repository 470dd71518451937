import Mathlib.Data.List.Forall2
import MockSsh.Proofs.Session.Faults
import MockSsh.Proofs.Stream.RoundTrip

/-!
Padding does not show. An answer reads of a packet its number and its payload, and writing looks at
nothing that is still to come (`Session.answerPacket_advance`); so a turn that takes a frame does the
same whatever padding the frame has (`Session.turn_of_carries`), and two sessions that are fed the
same messages in other frames stay the same but for what they have yet to read
(`Session.converse_of_carries`).
-/
namespace MockSsh

/-! ## Frames of a message -/

/-- The frame holds the message, a number with a payload, in any padding; it is no longer than the
limit, nor than its length field can tell. -/
inductive Frame.Carries (limit : Nat) : UInt8 × Bytes → Bytes → Prop
  | padded {number : UInt8} {payload padding : Bytes} (hpadding : padding.length < UInt8.size)
      (hsize : 2 + payload.length + padding.length < UInt32.size)
      (hlimit : 2 + payload.length + padding.length ≤ limit) :
      Carries limit (number, payload) (Frame.padded number payload padding)

section Carries

variable {limit : Nat} {message : UInt8 × Bytes} {frame : Bytes} (h : Frame.Carries limit message frame)
include h

theorem Frame.Carries.complete : Frame.Complete frame := by
  cases h with
  | padded hpadding hsize _ => exact complete_padded _ _ hpadding hsize

theorem Frame.Carries.total_le : Frame.total frame ≤ limit := by
  cases h with
  | padded _ hsize hlimit => rwa [total_padded, Nat.mod_eq_of_lt hsize]

theorem Frame.Carries.content :
    ∃ padding, Frame.content frame = ⟨message.1, message.2, padding⟩ := by
  cases h with
  | padded hpadding _ _ => exact ⟨_, content_padded _ _ hpadding⟩

end Carries

namespace Session

variable {κ : Type}

/-! ## Sessions with other bytes to come -/

/-- The same session with other bytes to come, and more of them counted. -/
def advance (session : Session κ) (rest : Bytes) (counted : Nat) : Session κ :=
  { session with transport := session.transport.advance rest counted }

/-- The same turn with other bytes to come. -/
def Turn.advance (turn : Turn κ) (rest : Bytes) (counted : Nat) : Turn κ :=
  { turn with session := turn.session.advance rest counted }

/-- The session without what has come to it and what is still to come. -/
def withoutInput (session : Session κ) : Session κ :=
  { session with transport := { session.transport with
    stream := { session.transport.stream with chunks := [] }
    bytesRead := 0 } }

theorem Recut.withoutInput {session other : Session κ} (h : session.Recut other) :
    session.withoutInput = other.withoutInput := by
  obtain ⟨_, rfl, stream, rfl, chunks, rfl, -⟩ := h
  rfl

theorem written_of_withoutInput {session other : Session κ}
    (h : session.withoutInput = other.withoutInput) : session.written = other.written := by
  have hwritten := congrArg written h
  exact hwritten

/-- Conversations that came to the same end, logged the same events and wrote the same. -/
structure Finished.SameButInput (finished other : Finished κ) : Prop where
  result : finished.result = other.result
  events : finished.events = other.events
  session : finished.session.withoutInput = other.session.withoutInput

theorem greet_advance (session : Session κ) (rest : Bytes) (counted : Nat)
    (read : Except Fault (Option String)) :
    (session.advance rest counted).greet read = (session.greet read).advance rest counted :=
  greet_changed (Stream.unseen_input (fun _ => [rest]) id []) session counted read

theorem greet_keeps {session : Session κ} {read : Except Fault (Option String)}
    (h : (session.greet read).ended = none) :
    (session.greet read).session.state = .packetLoop ∧
      (session.greet read).session.config = session.config := by
  rcases read with fault | _ | line
  · cases h
  · cases h
  · unfold greet at h ⊢
    simp only at h ⊢
    split at h
    · cases h
    · exact ⟨rfl, rfl⟩

variable [KeyExchange κ]

/-! ## One turn -/

/-- An answer looks at nothing that is still to come. -/
theorem answerPacket_advance (session : Session κ) (rest : Bytes) (counted : Nat)
    (inbound : Inbound) :
    (session.advance rest counted).answerPacket inbound
      = (session.answerPacket inbound).advance rest counted :=
  answerPacket_changed (Stream.unseen_input (fun _ => [rest]) id []) session counted inbound

/-- An answer, and what is logged of the packet, depend on its number and its payload alone. -/
theorem answerPacket_padding (session : Session κ) (sequence : UInt32) (number : UInt8)
    (payload : Bytes) (padding other : UInt8) :
    session.answerPacket ⟨sequence, ⟨number, payload, padding⟩⟩
      = session.answerPacket ⟨sequence, ⟨number, payload, other⟩⟩ := rfl

/-- The session once it has counted one more packet, answers the message. -/
def answerMessage (session : Session κ) (message : UInt8 × Bytes) : Turn κ :=
  let counted := { session with transport := { session.transport with
    packetsReceived := session.transport.packetsReceived + 1 } }
  counted.answerPacket ⟨session.transport.packetsReceived, ⟨message.1, message.2, 0⟩⟩

/-- **A turn that takes a frame** answers the message in it, whatever its padding. -/
theorem turn_of_carries {session : Session κ} (hstate : session.state = .packetLoop)
    {message : UInt8 × Bytes} {frame : Bytes}
    (hframe : Frame.Carries session.config.maxPacketLength message frame) (rest : Bytes)
    (counted : Nat) :
    (session.advance (frame ++ rest) counted).turn.Alike
      ((session.answerMessage message).advance rest (counted + frame.length)) := by
  obtain ⟨padding, hcontent⟩ := hframe.content
  have hread := Transport.readPacket_of_complete hframe.complete hframe.total_le
    (Transport.pending_advance session.transport (frame ++ rest) counted)
  rw [hcontent, Transport.advance_advance] at hread
  have hturn := @turn_of_readPacket κ (session.advance (frame ++ rest) counted) _ hstate _ _ hread
  rw [answerMessage, answerPacket_padding _ _ _ _ 0 padding, ← answerPacket_advance]
  exact hturn

/-- Where the bytes have ended, their end is all that a turn meets. -/
theorem turn_of_nothing {session : Session κ} (hstate : session.state = .packetLoop) :
    ∃ result, ∀ counted, (session.advance [] counted).turn.Alike
      (Turn.advance ⟨some result, session, []⟩ [] counted) := by
  have hread (counted : Nat) : Alike Transport.Recut
      ((session.transport.advance [] counted).readPacket session.config.maxPacketLength)
      (Transport.endOfRead session.transport.stream.ending,
        session.transport.advance [] counted) := by
    have hshort : (session.transport.advance [] counted).stream.unread < Header.size := by
      rw [Stream.unread, Transport.pending_advance]
      decide
    have hend := Transport.readPacket_of_short hshort session.config.maxPacketLength
    rwa [Transport.advance_advance] at hend
  have hturn (counted : Nat) := @turn_of_readPacket κ (session.advance [] counted) _ hstate _ _
    (hread counted)
  -- the way in which the bytes end belongs to the stream, and so is the same for every count
  rcases Transport.endOfRead_cases session.transport.stream.ending with hclosed | ⟨fault, hfault⟩
  · simp only [hclosed] at hturn
    exact ⟨.ok .peerClosed, hturn⟩
  · simp only [hfault] at hturn
    exact ⟨.error fault, hturn⟩

/-- A line that is short enough is taken as a whole. -/
theorem turn_of_short_line {session : Session κ} (hstate : session.state = .versionExchange)
    {text : Bytes} (htext : Transport.lineFeed ∉ text)
    (hshort : text.length < max session.config.maxIdentificationLength 1) (rest : Bytes)
    (counted : Nat) :
    ∃ more, (session.advance (text ++ Transport.lineFeed :: rest) counted).turn.Alike
      ((session.greet (.ok (some (identificationText text)))).advance rest more) := by
  obtain ⟨more, hread⟩ := Transport.readIdentification_alike
    (session.transport.advance (text ++ Transport.lineFeed :: rest) counted)
    session.config.maxIdentificationLength
  rw [Transport.pending_advance, cutLine_of_line htext, if_neg (Nat.not_le.mpr hshort),
    Transport.identificationRead, Transport.advance_advance] at hread
  refine ⟨counted + more, ?_⟩
  rw [← greet_advance]
  exact @turn_of_readIdentification κ
    (session.advance (text ++ Transport.lineFeed :: rest) counted) _ hstate _ _ hread

/-- **The first turn** takes the line, or has enough of it, whatever stands behind it. -/
theorem turn_of_line {session : Session κ} (hstate : session.state = .versionExchange) {text : Bytes}
    (htext : Transport.lineFeed ∉ text) :
    ∃ read, ∀ rest counted, ∃ left more,
      (session.advance (text ++ Transport.lineFeed :: rest) counted).turn.Alike
        ((session.greet read).advance left more) ∧
      ((session.greet read).ended = none → left = rest) := by
  rcases Nat.lt_or_ge text.length (max session.config.maxIdentificationLength 1) with hshort | hlong
  · refine ⟨.ok (some (identificationText text)), fun rest counted => ?_⟩
    obtain ⟨more, hturn⟩ := turn_of_short_line hstate htext hshort rest counted
    exact ⟨rest, more, hturn, fun _ => rfl⟩
  · -- too long a line is given up before its end, wherever that leaves the rest
    refine ⟨.error (.identificationTooLong (max session.config.maxIdentificationLength 1)),
      fun rest counted => ?_⟩
    obtain ⟨more, hread⟩ := Transport.readIdentification_alike
      (session.transport.advance (text ++ Transport.lineFeed :: rest) counted)
      session.config.maxIdentificationLength
    rw [Transport.pending_advance, cutLine_of_line htext, if_pos hlong,
      Transport.identificationRead, Transport.advance_advance] at hread
    have hturn := @turn_of_readIdentification κ
      (session.advance (text ++ Transport.lineFeed :: rest) counted) _ hstate _ _ hread
    refine ⟨_, _, hturn, fun hnone => ?_⟩
    cases hnone

/-! ## Conversations -/

theorem answerMessage_keeps (session : Session κ) (message : UInt8 × Bytes) :
    (session.answerMessage message).session.state = session.state ∧
      (session.answerMessage message).session.config = session.config := by
  unfold answerMessage answerPacket
  simp only
  split
  · exact ⟨rfl, rfl⟩
  · split <;> exact ⟨rfl, rfl⟩

/-- Turns that end two conversations alike. -/
theorem sameButInput_of_ended {session other next : Session κ} {result : Except Fault SessionEnd}
    {events : List Event} {rest left : Bytes} {m n : Nat}
    (h : session.turn.Alike (Turn.advance ⟨some result, next, events⟩ rest m))
    (h' : other.turn.Alike (Turn.advance ⟨some result, next, events⟩ left n)) :
    session.converse.SameButInput other.converse := by
  obtain ⟨hresult, hevents, hlast⟩ := converse_alike_of_ended h
  obtain ⟨hresult', hevents', hlast'⟩ := converse_alike_of_ended h'
  exact ⟨hresult.trans hresult'.symm, hevents.trans hevents'.symm,
    hlast.withoutInput.trans hlast'.withoutInput.symm⟩

/-- Turns after which two conversations go on alike. -/
theorem sameButInput_of_goes_on {session other next : Session κ} {events : List Event}
    {rest left : Bytes} {m n : Nat}
    (h : session.turn.Alike (Turn.advance ⟨none, next, events⟩ rest m))
    (h' : other.turn.Alike (Turn.advance ⟨none, next, events⟩ left n))
    (hnext : (next.advance rest m).converse.SameButInput (next.advance left n).converse) :
    session.converse.SameButInput other.converse := by
  obtain ⟨hresult, hevents, hlast⟩ := converse_alike_of_goes_on h
  obtain ⟨hresult', hevents', hlast'⟩ := converse_alike_of_goes_on h'
  refine ⟨(hresult.trans hnext.result).trans hresult'.symm, ?_,
    (hlast.withoutInput.trans hnext.session).trans hlast'.withoutInput.symm⟩
  rw [hevents, hevents']
  exact congrArg (events ++ ·) hnext.events

/-- **Messages in other frames** make the same conversation: the induction is on the messages. -/
theorem converse_of_carries {limit : Nat} {messages : List (UInt8 × Bytes)}
    {frames others : List Bytes} (hframes : List.Forall₂ (Frame.Carries limit) messages frames)
    (hothers : List.Forall₂ (Frame.Carries limit) messages others) {session : Session κ}
    (hstate : session.state = .packetLoop) (hlimit : session.config.maxPacketLength = limit)
    (m n : Nat) :
    (session.advance frames.flatten m).converse.SameButInput
      (session.advance others.flatten n).converse := by
  induction hframes generalizing session others m n with
  | nil =>
    cases hothers
    obtain ⟨result, hturn⟩ := turn_of_nothing hstate
    exact sameButInput_of_ended (hturn m) (hturn n)
  | @cons message frame messages frames hframe _ ih =>
    obtain _ | @⟨_, other, _, others, hother, hrest⟩ := hothers
    subst hlimit
    rw [List.flatten_cons, List.flatten_cons]
    have hturn := turn_of_carries hstate hframe frames.flatten m
    have hotherTurn := turn_of_carries hstate hother others.flatten n
    obtain ⟨hkept, hsame⟩ := session.answerMessage_keeps message
    generalize session.answerMessage message = turn at hturn hotherTurn hkept hsame
    obtain ⟨ended, next, events⟩ := turn
    cases ended with
    | some result => exact sameButInput_of_ended hturn hotherTurn
    | none =>
      refine sameButInput_of_goes_on hturn hotherTurn ?_
      exact ih hrest (hkept.trans hstate) (congrArg Config.maxPacketLength hsame) _ _

/-- A line, and then messages in other frames. -/
theorem converse_of_line {text : Bytes} (htext : Transport.lineFeed ∉ text) {session : Session κ}
    {messages : List (UInt8 × Bytes)} {frames others : List Bytes}
    (hframes : List.Forall₂ (Frame.Carries session.config.maxPacketLength) messages frames)
    (hothers : List.Forall₂ (Frame.Carries session.config.maxPacketLength) messages others)
    (hstate : session.state = .versionExchange) :
    (session.advance (text ++ Transport.lineFeed :: frames.flatten) 0).converse.SameButInput
      (session.advance (text ++ Transport.lineFeed :: others.flatten) 0).converse := by
  obtain ⟨read, hturn⟩ := turn_of_line hstate htext
  obtain ⟨left, m, hfirst, hleft⟩ := hturn frames.flatten 0
  obtain ⟨otherLeft, n, hother, hotherLeft⟩ := hturn others.flatten 0
  have hkeeps := @greet_keeps κ session read
  generalize session.greet read = turn at hfirst hleft hother hotherLeft hkeeps
  obtain ⟨ended, next, events⟩ := turn
  cases ended with
  | some result => exact sameButInput_of_ended hfirst hother
  | none =>
    -- the line was taken whole, so the frames alone are left
    obtain ⟨hloop, hconfig⟩ := hkeeps rfl
    refine sameButInput_of_goes_on hfirst hother ?_
    rw [hleft rfl, hotherLeft rfl]
    exact converse_of_carries hframes hothers hloop (congrArg Config.maxPacketLength hconfig) m n

omit [KeyExchange κ] in
theorem leave_withoutInput (session : Session κ) :
    session.withoutInput.leave = (session.leave.1.withoutInput, session.leave.2) := by
  unfold leave Transport.shutdown Stream.shutdown withoutInput
  simp only
  cases session.transport.stream.shutdownFault with
  | none => rfl
  | some fault =>
    simp only
    split <;> rfl

/-- Conversations that are the same but for what they read are left alike. -/
theorem Finished.SameButInput.run {session other : Session κ}
    (h : session.converse.SameButInput other.converse) :
    session.run.result = other.run.result ∧ session.run.events = other.run.events ∧
      session.run.session.withoutInput = other.run.session.withoutInput := by
  have hleave := congrArg leave h.session
  rw [leave_withoutInput, leave_withoutInput, Prod.mk.injEq] at hleave
  obtain ⟨hlast, hevents⟩ := hleave
  refine ⟨?_, ?_, hlast⟩
  · have hreport := congrArg report h.session
    rw [result_run, result_run, h.result]
    exact congrArg (other.converse.result.map ·) hreport
  · rw [events_run, events_run, h.events, hevents]

/-- A line, and then messages in other frames, in any chunks. -/
theorem run_of_frames (stream : Stream) (config : Config) (peer : String) (exchange : κ)
    {text : Bytes} (htext : Transport.lineFeed ∉ text) {messages : List (UInt8 × Bytes)}
    {frames others : List Bytes}
    (hframes : List.Forall₂ (Frame.Carries config.maxPacketLength) messages frames)
    (hothers : List.Forall₂ (Frame.Carries config.maxPacketLength) messages others)
    {chunks otherChunks : List Bytes}
    (h : chunks.flatten = text ++ Transport.lineFeed :: frames.flatten)
    (h' : otherChunks.flatten = text ++ Transport.lineFeed :: others.flatten) :
    let run (chunks : List Bytes) : Run κ :=
      (fresh { stream with chunks } config peer exchange).run
    (run chunks).result = (run otherChunks).result ∧
      (run chunks).events = (run otherChunks).events ∧
      (run chunks).session.withoutInput = (run otherChunks).session.withoutInput := by
  intro run
  have hrecut {chunks : List Bytes} {input : Bytes} (h : chunks.flatten = input) :
      (fresh { stream with chunks } config peer exchange).Recut
        ((fresh stream config peer exchange).advance input 0) :=
    ⟨_, rfl, _, rfl, chunks, rfl, by rw [h]; exact (List.append_nil input).symm⟩
  obtain ⟨hresult, hevents, hleft⟩ := (hrecut h).run
  obtain ⟨hresult', hevents', hleft'⟩ := (hrecut h').run
  obtain ⟨hsame, hlogged, hlast⟩ := (@converse_of_line κ _ text htext
    (fresh stream config peer exchange) messages frames others hframes hothers rfl).run
  exact ⟨(hresult.trans hsame).trans hresult'.symm, (hevents.trans hlogged).trans hevents'.symm,
    (hleft.withoutInput.trans hlast).trans hleft'.withoutInput.symm⟩

/-- **Padding does not show.** Whatever the settings, the key exchange and the faults of the stream: let
the peer send a line, and then messages, framed in two ways, with any padding of each frame up to 255
bytes and any chunks. Both sessions end with the same report or fault, log the same events, write the
same bytes and are left the same, but for how much they have read and what is unread; and so are both
connections served. -/
theorem run_of_carries (stream : Stream) (config : Config) (peer : String) (exchange : κ)
    {text : Bytes} (htext : Transport.lineFeed ∉ text) {messages : List (UInt8 × Bytes)}
    {frames others : List Bytes}
    (hframes : List.Forall₂ (Frame.Carries config.maxPacketLength) messages frames)
    (hothers : List.Forall₂ (Frame.Carries config.maxPacketLength) messages others)
    {chunks otherChunks : List Bytes}
    (h : chunks.flatten = text ++ Transport.lineFeed :: frames.flatten)
    (h' : otherChunks.flatten = text ++ Transport.lineFeed :: others.flatten) :
    let run (chunks : List Bytes) : Run κ :=
      (fresh { stream with chunks } config peer exchange).run
    let serve (chunks : List Bytes) : Served := serveStream { stream with chunks } config peer
    ((run chunks).result = (run otherChunks).result ∧
      (run chunks).events = (run otherChunks).events ∧
      (run chunks).session.written = (run otherChunks).session.written ∧
      (run chunks).session.withoutInput = (run otherChunks).session.withoutInput) ∧
    ((serve chunks).report = (serve otherChunks).report ∧
      (serve chunks).events = (serve otherChunks).events ∧
      (serve chunks).stream.written = (serve otherChunks).stream.written) := by
  intro run serve
  -- a served connection is a run too, with a key exchange of its own
  have hrun {ι : Type} [KeyExchange ι] (exchange : ι) :=
    run_of_frames stream config peer exchange htext hframes hothers h h'
  obtain ⟨hresult, hevents, hleft⟩ := hrun exchange
  obtain ⟨hserved, hlogged, hlast⟩ := hrun Cleartext.fresh
  refine ⟨⟨hresult, hevents, written_of_withoutInput hleft, hleft⟩, ?_, ?_,
    written_of_withoutInput hlast⟩
  · show Except.toOption _ = _
    rw [hserved]
    rfl
  · show Event.connectionAccepted peer :: _ ++ [Event.ofEnd peer _] = _
    rw [hserved, hlogged]
    rfl

/-- Data and a goodbye, once without padding and once with three bytes and with the most there can
be. -/
theorem run_of_carries_padded :
    let text : Bytes := [83, 83, 72, 45]
    let data : Bytes := [0, 0, 0, 7, 0, 0, 0, 2, 104, 105]
    let goodbye : Bytes := [0, 0, 0, 11]
    let frames : List Bytes := [Frame.padded 94 data [], Frame.padded 1 goodbye []]
    let others : List Bytes :=
      [Frame.padded 94 data [1, 2, 3], Frame.padded 1 goodbye (List.replicate 255 9)]
    let carries := List.Forall₂ (Frame.Carries Packet.defaultLimit) [(94, data), (1, goodbye)]
    let run (frames : List Bytes) : Run Cleartext :=
      (fresh (.ofChunks [text, Transport.lineFeed :: frames.flatten]) .default "peer"
        Cleartext.fresh).run
    Transport.lineFeed ∉ text ∧ carries frames ∧ carries others ∧
      (run others).result.toOption = some ⟨.peerDisconnected, 2, 1, false, some "SSH-"⟩ ∧
      (run others).session.written = (run frames).session.written := by
  intro text data goodbye frames others carries run
  have htext : Transport.lineFeed ∉ text := by decide
  have hframes : carries frames :=
    .cons (.padded (by decide) (by decide) (by decide))
      (.cons (.padded (by decide) (by decide) (by decide)) .nil)
  have hmost : (List.replicate 255 (9 : UInt8)).length = 255 := List.length_replicate
  have hothers : carries others :=
    .cons (.padded (by decide) (by decide) (by decide))
      (.cons (.padded (by rw [hmost]; decide) (by rw [hmost]; decide) (by rw [hmost]; decide)) .nil)
  have hreport : (run frames).result.toOption
      = some ⟨.peerDisconnected, 2, 1, false, some "SSH-"⟩ := by decide +kernel
  have hchunks (frames : List Bytes) : [text, Transport.lineFeed :: frames.flatten].flatten
      = text ++ Transport.lineFeed :: frames.flatten := by
    rw [List.flatten_cons, List.flatten_singleton]
  obtain ⟨⟨hresult, -, hwritten, -⟩, -⟩ := run_of_carries (.ofInput []) .default "peer"
    Cleartext.fresh htext hothers hframes (hchunks others) (hchunks frames)
  exact ⟨htext, hframes, hothers, (congrArg Except.toOption hresult).trans hreport, hwritten⟩

end Session

end MockSsh
