import MockSsh.Proofs.Dispatch.History
import MockSsh.Proofs.Message.RoundTrip
import MockSsh.Proofs.Stream.RoundTrip

/-!
How long the replies to a packet are. Data come back with the server's own padding, and so in a packet
that may be four bytes longer than the one that brought them; no other reply is longer than the answer to
the opening of a key exchange (`length_verdict`). The length field of a frame has 32 bits. So every reply
to a packet within the server's limit can be read back from its frame exactly if the limit leaves four
bytes of that field free (`replies_fit_iff`). No setting of the limit is refused for it, and where it is
higher a reply is written in a frame that declares three bytes (`replies_fit_overlong`).
-/
namespace MockSsh

/-! ## Lengths of messages -/

namespace Message

/-- A message number has at most three digits, and no name has more than 33 characters. -/
theorem length_encode_describe (number : UInt8) : (Utf8.encode (describe number)).length ≤ 37 := by
  have hdigits : number.toNat.repr.length ≤ 3 :=
    (Nat.length_repr_le_iff (by decide)).mpr (Nat.lt_trans number.toNat_lt (by decide))
  unfold describe
  split
  · next kind _ =>
    cases kind <;> decide +kernel
  · have hopen : (Utf8.encode "UNKNOWN(").length = 8 := by decide +kernel
    have hclose : (Utf8.encode ")").length = 1 := by decide +kernel
    have hnumber := Utf8.length_encode_le number.toNat.repr
    show (Utf8.encode ("UNKNOWN(" ++ number.toNat.repr ++ ")")).length ≤ 37
    simp only [Utf8.encode_append, List.length_append, hopen, hclose]
    omega

/-- Data stand behind two words. -/
theorem ChannelData.length_of_parse {payload : Bytes} {message : ChannelData}
    (h : parse payload = .ok message) : message.data.length + 8 ≤ payload.length := by
  obtain ⟨texts, hrecipient, hdata⟩ := (accepts.ok_iff payload message).mp h
  simp only [List.length_append, hrecipient.length, hdata.length]
  omega

end Message

namespace Dispatcher

/-! ## Lengths of answers -/

/-- The length of the answer to the opening of a key exchange. -/
def openingLength : Nat :=
  Cleartext.initLength + 6

theorem length_unsupportedAnswer (policy : UnsupportedPolicy) (inbound : Inbound) :
    (unsupportedAnswer policy inbound).All (·.totalLength ≤ openingLength) := by
  refine all_unsupportedAnswer policy (show 10 ≤ openingLength by decide) ?_
  have hnumber := Message.length_encode_describe inbound.packet.number
  have htext : (Utf8.encode "unsupported message ").length = 20 := by decide +kernel
  have hempty : (Utf8.encode "").length = 0 := rfl
  rw [Message.Disconnect.packet, Packet.totalLength_ofKind]
  simp only [Message.Disconnect.payload, List.length_append, length_encodeWord,
    Message.length_encodeText, Utf8.encode_append, htext, hempty, openingLength,
    Cleartext.initLength]
  omega

theorem length_requestAnswer (message : Message.ChannelRequest) :
    (requestAnswer message).All (·.totalLength ≤ openingLength) := by
  refine all_requestAnswer (show 10 ≤ openingLength by decide) ?_
    (show 10 ≤ openingLength by decide)
  have htype : (Utf8.encode "exit-status").length = 11 := by decide +kernel
  rw [Message.ChannelRequest.packet, Packet.totalLength_ofKind]
  simp only [Message.ChannelRequest.payload, Message.ChannelRequest.exitStatus,
    List.length_append, length_encodeWord, Message.length_encodeText, htype]
  show 30 ≤ openingLength
  decide

/-- **The answer to a packet** is never longer than the answer to the opening of a key exchange, unless it
brings data back; then it has four bytes of padding where the packet has the peer's. -/
theorem length_verdict {channelPolicy : ChannelPolicy} {unsupportedPolicy : UnsupportedPolicy}
    {markers : Markers} {inbound : Inbound} {answer : Answer}
    (h : verdict channelPolicy unsupportedPolicy markers inbound = .ok answer) :
    answer.All (·.totalLength ≤ max openingLength (inbound.packet.payload.length + 6)) := by
  have own {given : Answer} (hgiven : given.All (·.totalLength ≤ openingLength)) :
      given.All (·.totalLength ≤ max openingLength (inbound.packet.payload.length + 6)) :=
    fun reply hreply => Nat.le_trans (hgiven reply hreply) (Nat.le_max_left _ _)
  unfold verdict at h
  cases hkind : inbound.packet.kind? with
  | none =>
    rw [hkind] at h
    cases h
    exact own (length_unsupportedAnswer unsupportedPolicy inbound)
  | some kind =>
    rw [hkind] at h
    cases kind with
    | keyExchangeInit | newKeys =>
      cases h
      exact own (Answer.all_reply (by decide))
    | serviceRequest =>
      cases h
      exact own (Answer.all_reply (by decide +kernel))
    | authRequest =>
      cases h
      refine own (Answer.all_reply ?_)
      split
      · decide
      · decide +kernel
    | channelOpen =>
      obtain ⟨message, -, rfl⟩ := answerTo_eq_ok_iff.mp h
      exact own (Answer.all_reply (show 22 ≤ openingLength by decide))
    | channelRequest =>
      obtain ⟨message, -, rfl⟩ := answerTo_eq_ok_iff.mp h
      exact own (length_requestAnswer message)
    | channelData =>
      obtain ⟨message, hparse, rfl⟩ := answerTo_eq_ok_iff.mp h
      have hfields := Message.ChannelData.length_of_parse hparse
      refine Answer.all_reply (Nat.le_trans ?_ (Nat.le_max_right _ _))
      rw [message.totalLength_packet]
      omega
    | channelClose =>
      obtain ⟨message, -, rfl⟩ := answerTo_eq_ok_iff.mp h
      exact Answer.all_silent
    | disconnect =>
      obtain ⟨message, -, rfl⟩ := answerTo_eq_ok_iff.mp h
      exact Answer.all_silent
    | ignore | unimplemented | debug | channelWindowAdjust | channelEnd =>
      cases h
      exact Answer.all_silent
    | serviceAccept | authFailure | authSuccess | authPublicKeyOk | channelOpenConfirmation
    | channelSuccess =>
      cases h
      exact own (length_unsupportedAnswer unsupportedPolicy inbound)

/-! ## Limits -/

/-- Data that reach the server without padding come back in a packet four bytes longer. -/
theorem exists_echo {limit : Nat} {message : Message.ChannelData}
    (hlimit : message.data.length + 10 ≤ limit) (hsize : message.data.length + 10 < UInt32.size)
    (dispatcher : Dispatcher Cleartext) (connection : Connection) :
    let inbound : Inbound := ⟨0, ⟨94, message.payload, 0⟩⟩
    (∃ transport after : Transport, transport.readPacket limit = (.ok (some inbound), after)) ∧
      (dispatcher.dispatch connection inbound).result = .ok (.reply message.packet) := by
  intro inbound
  have hlength : inbound.packet.totalLength = message.data.length + 10 := by
    show 2 + (encodeWord message.recipient ++ Message.encodeString message.data).length + 0 = _
    rw [List.length_append, length_encodeWord, Message.length_encodeString]
    omega
  constructor
  · exact Transport.exists_readPacket_iff.mpr ⟨hlength ▸ hlimit, hlength ▸ hsize⟩
  · exact result_of_channelData dispatcher connection 0 0
      (Message.ChannelData.layout_payload (by omega))

/-- **Every reply fits into its frame** exactly if the limit on the peer's packets leaves four bytes of
the length field free. Whatever the settings besides and whatever came before, a packet that can be read
under such a limit is answered by packets that are read back from their frames; and under every higher
limit there is a packet that is answered by another one. -/
theorem replies_fit_iff (config : Config) (peer : String) :
    (∀ (history : List Inbound) (inbound : Inbound),
      (∃ transport after : Transport,
        transport.readPacket config.maxPacketLength = (.ok (some inbound), after)) →
      let reached := (ofConfig config Cleartext.fresh).dispatchAll
        (.fresh config.channelPolicy peer) history
      ∀ answer, (reached.1.dispatch reached.2 inbound).result = .ok answer →
        ∀ reply ∈ answer.replies,
          reply.totalLength ≤ UInt32.size - 1 ∧ Packet.ofFrame reply.encode = .ok reply) ↔
      config.maxPacketLength ≤ UInt32.size - 5 := by
  have hsize : UInt32.size = 4294967296 := rfl
  constructor
  · intro hreplies
    refine Nat.le_of_not_lt fun hhigh => ?_
    -- the shortest data whose reply is too long, without padding
    let message : Message.ChannelData := ⟨0, List.replicate (UInt32.size - 14) 0⟩
    have hlength : message.data.length = UInt32.size - 14 := List.length_replicate
    have hwithin : message.data.length + 10 ≤ config.maxPacketLength := by omega
    have hfits : message.data.length + 10 < UInt32.size := by omega
    obtain ⟨hread, hanswer⟩ := exists_echo hwithin hfits (ofConfig config Cleartext.fresh)
      (.fresh config.channelPolicy peer)
    obtain ⟨hreply, -⟩ := hreplies [] _ hread _ hanswer _ (List.mem_singleton_self _)
    rw [message.totalLength_packet] at hreply
    omega
  · intro hlimit history inbound hread reached answer hanswer reply hreply
    obtain ⟨hinbound, -⟩ := Transport.exists_readPacket_iff.mp hread
    have hreached : Settled config.unsupportedPolicy config.markers config.channelPolicy
        reached.1 reached.2 :=
      (Settled.fresh _ _ _ Cleartext.fresh peer).dispatchAll history
    rw [hreached.result] at hanswer
    have hlength : reply.totalLength ≤ UInt32.size - 1 := by
      have hwithin := length_verdict hanswer reply hreply
      have hopening : openingLength = 122 := rfl
      simp only [Packet.totalLength] at hinbound
      omega
    refine ⟨hlength, ?_⟩
    rw [Packet.ofFrame_eq_ok_iff, Packet.content_encode, Packet.complete_encode_iff]
    exact ⟨by omega, rfl⟩

/-- Under the highest limit that the length field allows, a packet as long as the limit is answered by
one whose frame declares three bytes. The limit is a valid setting. -/
theorem replies_fit_overlong :
    let config : Config := { Config.default with maxPacketLength := UInt32.size - 1 }
    let message : Message.ChannelData := ⟨0, List.replicate (UInt32.size - 11) 0⟩
    let inbound : Inbound := ⟨0, ⟨94, message.payload, 0⟩⟩
    let outcome := (ofConfig config Cleartext.fresh).dispatch
      (.fresh config.channelPolicy "peer") inbound
    config.validate = .ok config ∧
    (∃ transport after : Transport,
      transport.readPacket config.maxPacketLength = (.ok (some inbound), after)) ∧
    outcome.result = .ok (.reply message.packet) ∧
    message.packet.totalLength = UInt32.size + 3 ∧
    Frame.total message.packet.encode = 3 ∧
    Packet.ofFrame message.packet.encode ≠ .ok message.packet := by
  intro config message inbound outcome
  have hsize : UInt32.size = 4294967296 := rfl
  have hdata : message.data.length = UInt32.size - 11 := List.length_replicate
  have hlength : message.packet.totalLength = UInt32.size + 3 := by
    rw [message.totalLength_packet, hdata]
    rfl
  have hlimit : config.maxPacketLength = UInt32.size - 1 := rfl
  have hwithin : message.data.length + 10 ≤ config.maxPacketLength := by omega
  obtain ⟨hread, hanswer⟩ := exists_echo hwithin (by omega) (ofConfig config Cleartext.fresh)
    (.fresh config.channelPolicy "peer")
  refine ⟨by decide +kernel, hread, hanswer, hlength, ?_, ?_⟩
  · rw [Packet.total_encode, hlength]
    rfl
  · intro hback
    have hfits := Packet.complete_encode_iff.mp (Packet.ofFrame_eq_ok_iff.mp hback).1
    omega

end Dispatcher
end MockSsh
