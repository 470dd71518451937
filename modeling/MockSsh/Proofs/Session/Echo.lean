import MockSsh.Proofs.Dispatch.Step
import MockSsh.Proofs.Message.RoundTrip
import MockSsh.Proofs.Session.Padding
import MockSsh.Proofs.Session.Stages

/-!
Data come back as they were sent. The answer to a packet with data looks at no channel and at no setting
(`Dispatcher.result_of_channelData`), and the silent messages have none (`Dispatcher.result_of_silent`).
So on a stream that accepts everything each frame adds the echo of its own data, or nothing, to what was
written (`Session.written_of_carries`), and a conversation writes the echoes of all the data in their
order (`Session.run_of_sends`).
-/
namespace MockSsh

open Message (ChannelData)

/-! ## What is sent -/

/-- Frames in which a client sends data: each of them a packet with the data, anything behind the data
and any padding, and between them any packets that are consumed silently. -/
inductive Frame.Sends (limit : Nat) : List ChannelData → List Bytes → Prop
  | nil : Sends limit [] []
  | data {payload frame : Bytes} {message : ChannelData} {messages : List ChannelData}
      {frames : List Bytes} (hlayout : ChannelData.Layout payload [] message)
      (hframe : Frame.Carries limit (94, payload) frame) (hlater : Sends limit messages frames) :
      Sends limit (message :: messages) (frame :: frames)
  | silent {number : UInt8} {payload frame : Bytes} {messages : List ChannelData}
      {frames : List Bytes} (hnumber : number ∈ [2, 3, 4, 93, 96])
      (hframe : Frame.Carries limit (number, payload) frame) (hlater : Sends limit messages frames) :
      Sends limit messages (frame :: frames)

/-- The bytes in which data come back. -/
def Frame.echoes (messages : List ChannelData) : Bytes :=
  messages.flatMap fun message => message.packet.encode

theorem Frame.echoes_cons (message : ChannelData) (messages : List ChannelData) :
    echoes (message :: messages) = [message.packet].flatMap Packet.encode ++ echoes messages := by
  rw [List.flatMap_singleton]
  rfl

/-- The echoes are frames that send the same data once more, if their lengths can be told. -/
theorem Frame.sends_echoes {messages : List ChannelData}
    (h : ∀ message ∈ messages, message.packet.totalLength < UInt32.size) :
    Sends UInt32.size messages (messages.map fun message => message.packet.encode) := by
  induction messages with
  | nil => exact .nil
  | cons message messages ih =>
    obtain ⟨hsize, hlater⟩ := List.forall_mem_cons.mp h
    -- an echo is longer than its data, so that the length of the data can be told too
    have hdata : message.data.length < UInt32.size := by
      rw [message.totalLength_packet] at hsize
      exact Nat.lt_of_le_of_lt (Nat.le_add_right _ 14) hsize
    have hframe : Carries UInt32.size (94, message.payload) message.packet.encode := by
      rw [Packet.encode_eq_padded]
      exact .padded (show 4 < UInt8.size by decide) hsize (Nat.le_of_lt hsize)
    exact .data (ChannelData.layout_payload hdata) hframe (ih hlater)

/-! ## One turn -/

namespace Session

variable {κ : Type}

variable [KeyExchange κ]

theorem answerPacket_of_result {session : Session κ} (hstate : session.state = .packetLoop)
    (h : session.transport.stream.Accepting) {inbound : Inbound} {replies : List Packet}
    (hresult : (session.dispatcher.dispatch session.connection inbound).result
      = .ok (.ofReplies replies)) :
    ∃ next events, session.answerPacket inbound = ⟨none, next, events⟩ ∧
      session.Onto (replies.flatMap Packet.encode) next := by
  rw [answerPacket_of_accepting h]
  simp only [hresult]
  exact ⟨_, _, rfl, hstate, rfl, ⟨h.room, h.flush⟩, rfl⟩

theorem answerMessage_of_result {session : Session κ} (hstate : session.state = .packetLoop)
    (h : session.transport.stream.Accepting) {message : UInt8 × Bytes} {replies : List Packet}
    (hresult : ∀ sequence, (session.dispatcher.dispatch session.connection
      ⟨sequence, ⟨message.1, message.2, 0⟩⟩).result = .ok (.ofReplies replies)) :
    ∃ next events, session.answerMessage message = ⟨none, next, events⟩ ∧
      session.Onto (replies.flatMap Packet.encode) next := by
  -- the packet is counted before it is answered, which does not show in what is written
  let counted : Session κ := { session with transport := { session.transport with
    packetsReceived := session.transport.packetsReceived + 1 } }
  have haccepting : counted.transport.stream.Accepting := ⟨h.room, h.flush⟩
  obtain ⟨next, events, hanswer, honto⟩ :=
    @answerPacket_of_result κ _ counted hstate haccepting _ replies (hresult _)
  exact ⟨next, events, hanswer, honto.state, honto.config, honto.accepting, honto.written⟩

/-- **A frame** whose message has an answer adds the answer to what was written, whatever is written for
what follows it. -/
theorem written_of_carries {session : Session κ} (hstate : session.state = .packetLoop)
    (h : session.transport.stream.Accepting) {message : UInt8 × Bytes} {frame : Bytes}
    (hframe : Frame.Carries session.config.maxPacketLength message frame) {replies : List Packet}
    (hresult : ∀ sequence, (session.dispatcher.dispatch session.connection
      ⟨sequence, ⟨message.1, message.2, 0⟩⟩).result = .ok (.ofReplies replies))
    {rest more : Bytes}
    (hrest : ∀ next, session.Onto (replies.flatMap Packet.encode) next → ∀ counted,
      (next.advance rest counted).converse.session.written = next.written ++ more)
    (counted : Nat) :
    (session.advance (frame ++ rest) counted).converse.session.written
      = session.written ++ (replies.flatMap Packet.encode ++ more) := by
  have hturn := turn_of_carries hstate hframe rest counted
  obtain ⟨next, events, hanswer, honto⟩ := answerMessage_of_result hstate h hresult
  rw [hanswer] at hturn
  have hgoes := converse_alike_of_goes_on hturn
  rw [written_of_withoutInput hgoes.session.withoutInput, ← List.append_assoc, ← honto.written]
  exact hrest next honto _

/-- **The packet loop** writes the echoes: the induction is on the frames. -/
theorem converse_of_sends {limit : Nat} {messages : List ChannelData} {frames : List Bytes}
    (hsends : Frame.Sends limit messages frames) {session : Session κ}
    (hstate : session.state = .packetLoop) (h : session.transport.stream.Accepting)
    (hlimit : session.config.maxPacketLength = limit) (counted : Nat) :
    (session.advance frames.flatten counted).converse.session.written
      = session.written ++ Frame.echoes messages := by
  induction hsends generalizing session counted with
  | nil =>
    -- the bytes have ended, and their end has no answer
    obtain ⟨result, hturn⟩ := turn_of_nothing hstate
    have hended := converse_alike_of_ended (hturn counted)
    rw [List.flatten_nil, written_of_withoutInput hended.session.withoutInput]
    exact (List.append_nil _).symm
  | @data payload frame message messages frames hlayout hframe _ ih =>
    subst hlimit
    have hresult (sequence : UInt32) :=
      session.dispatcher.result_of_channelData session.connection sequence 0 hlayout
    rw [List.flatten_cons, Frame.echoes_cons]
    refine written_of_carries hstate h hframe hresult (fun next honto => ?_) counted
    exact ih honto.state honto.accepting (congrArg Config.maxPacketLength honto.config)
  | @silent number payload _ _ _ hnumber hframe _ ih =>
    subst hlimit
    have hresult (sequence : UInt32) :=
      session.dispatcher.result_of_silent session.connection sequence hnumber payload 0
    rw [List.flatten_cons]
    refine written_of_carries hstate h hframe hresult (fun next honto => ?_) counted
    exact ih honto.state honto.accepting (congrArg Config.maxPacketLength honto.config)

/-! ## Sessions -/

/-- **Data come back as they were sent.** Whatever the settings, the key exchange, the channels of the
connection and the chunks: let a session that accepts everything be sent a line, no longer than it may
be, and then frames with data, with anything behind the data and any padding, and silent messages
between them. After its own line the session writes the echoes of the data, in their order, and nothing
else. The echoes are in turn frames that send the same data, if their lengths fit into 32 bits. -/
theorem run_of_sends {session : Session κ} (hstate : session.state = .versionExchange)
    (h : session.transport.stream.Accepting) {text : Bytes} (htext : Transport.lineFeed ∉ text)
    (hshort : text.length < max session.config.maxIdentificationLength 1)
    {messages : List ChannelData} {frames : List Bytes}
    (hsends : Frame.Sends session.config.maxPacketLength messages frames)
    (hpending : session.transport.stream.pending
      = text ++ Transport.lineFeed :: frames.flatten) :
    session.run.session.written
        = session.written ++ Transcript.greeting session.config ++ Frame.echoes messages ∧
      ((∀ message ∈ messages, message.packet.totalLength < UInt32.size) →
        Frame.Sends UInt32.size messages (messages.map fun message => message.packet.encode)) := by
  refine ⟨?_, Frame.sends_echoes⟩
  have hrecut : session.Recut
      (session.advance (text ++ Transport.lineFeed :: frames.flatten) 0) :=
    ⟨_, rfl, _, rfl, session.transport.stream.chunks, rfl,
      hpending.trans (List.append_nil _).symm⟩
  -- the first turn answers the line with a line and leaves the frames
  obtain ⟨more, hturn⟩ := turn_of_short_line hstate htext hshort frames.flatten 0
  obtain ⟨next, events, hgreet, honto⟩ := greet_of_accepting h (identificationText text)
  rw [hgreet] at hturn
  have hgoes := converse_alike_of_goes_on hturn
  rw [written_run, written_of_withoutInput hrecut.converse.session.withoutInput,
    written_of_withoutInput hgoes.session.withoutInput, ← honto.written]
  exact converse_of_sends hsends honto.state honto.accepting
    (congrArg Config.maxPacketLength honto.config) more

/-- Data on channel 7 that look like the beginning of a frame, with two bytes behind them and with
padding; a message to be ignored; and no data, on channel 5. Of these only 5 is open, under the
server's number zero. -/
theorem run_of_sends_between :
    let text : Bytes := [83, 83, 72, 45, 13]
    let first : Bytes := [0, 0, 0, 7] ++ (([0, 0, 0, 6] ++ [0, 0, 0, 2, 0, 97]) ++ [1, 2])
    let second : Bytes := [0, 0, 0, 5] ++ (([0, 0, 0, 0] ++ []) ++ [])
    let frames : List Bytes :=
      [Frame.padded 94 first [9, 9, 9], Frame.padded 2 [255] [], Frame.padded 94 second []]
    let messages : List ChannelData := [⟨7, [0, 0, 0, 2, 0, 97]⟩, ⟨5, []⟩]
    let stream : Stream := .ofChunks [text, Transport.lineFeed :: frames.flatten]
    let session : Session Cleartext :=
      { fresh stream .default "peer" Cleartext.fresh with
        connection := ⟨⟨.zero, [(5, ⟨5, 0, true, 0⟩)], 1⟩, true, "peer"⟩ }
    session.state = .versionExchange ∧ stream.Accepting ∧ Transport.lineFeed ∉ text ∧
      text.length < max session.config.maxIdentificationLength 1 ∧
      Frame.Sends session.config.maxPacketLength messages frames ∧
      stream.pending = text ++ Transport.lineFeed :: frames.flatten ∧
      session.run.session.written = Transcript.greeting session.config ++
        [0, 0, 0, 20, 4, 94, 0, 0, 0, 7, 0, 0, 0, 6, 0, 0, 0, 2, 0, 97, 0, 0, 0, 0,
          0, 0, 0, 14, 4, 94, 0, 0, 0, 5, 0, 0, 0, 0, 0, 0, 0, 0] := by
  intro text first second frames messages stream session
  have hsends : Frame.Sends session.config.maxPacketLength messages frames := by
    have hsix : Message.IsWord [0, 0, 0, 6] 6 := .mk (by decide)
    have hfirst : ChannelData.Layout first [] ⟨7, [0, 0, 0, 2, 0, 97]⟩ :=
      .mk (.mk (by decide)) (.mk hsix (by decide))
    have hzero : Message.IsWord [0, 0, 0, 0] 0 := .mk (by decide)
    have hsecond : ChannelData.Layout second [] ⟨5, []⟩ :=
      .mk (.mk (by decide)) (.mk hzero (by decide))
    exact .data hfirst (.padded (by decide) (by decide) (by decide))
      (.silent (by decide) (.padded (by decide) (by decide) (by decide))
        (.data hsecond (.padded (by decide) (by decide) (by decide)) .nil))
  have haccepting : stream.Accepting := ⟨rfl, rfl⟩
  have htext : Transport.lineFeed ∉ text := by decide
  have hshort : text.length < max session.config.maxIdentificationLength 1 := by decide
  have hpending : stream.pending = text ++ Transport.lineFeed :: frames.flatten := by decide
  obtain ⟨hwritten, -⟩ :=
    @run_of_sends Cleartext _ session rfl haccepting text htext hshort messages frames hsends hpending
  exact ⟨rfl, haccepting, htext, hshort, hsends, hpending, hwritten⟩

end Session
end MockSsh
