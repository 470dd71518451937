import MockSsh.Proofs.Message.Grammar

/-!
Messages come back from their own packets. Of a message only the strings could fail to come back, if
one were too long for its length field; a byte string that was read never is, but a text can be, because
a replacement character has more bytes than what it replaces (`RoundTrips`).
-/
namespace MockSsh.Message

/-! ## Fields -/

theorem isWord_encodeWord (word : UInt32) : IsWord (encodeWord word) word :=
  isWord_iff.mpr rfl

theorem isString_encodeString {content : Bytes} (h : content.length < UInt32.size) :
    IsString (encodeString content) content :=
  isString_iff.mpr ⟨h, rfl⟩

theorem isFlag_encodeFlag (flag : Bool) : IsFlag (encodeFlag flag) flag := by
  cases flag with
  | false => exact .mk 0
  | true => exact .mk 1

theorem IsString.content_lt {field content : Bytes} (h : IsString field content) :
    content.length < UInt32.size :=
  (isString_iff.mp h).1

/-! ## Messages -/

section RoundTrips

variable {μ : Type}

/-- The length of the text in bytes fits into a length field. -/
def TextFits (text : String) : Prop :=
  (Utf8.encode text).length < UInt32.size

/-- A message whose strings fit is read back from the payload of its packet; and so is a message that
was read off any payload, for which only its texts have to fit. -/
structure RoundTrips (parse : Bytes → Except PayloadFault μ) (packet : μ → Packet)
    (texts : μ → List String) (blobs : μ → List Bytes) : Prop where
  of_message : ∀ message, (∀ text ∈ texts message, TextFits text) →
    (∀ blob ∈ blobs message, blob.length < UInt32.size) →
    parse (packet message).payload = .ok message
  of_payload : ∀ payload message, parse payload = .ok message →
    (∀ text ∈ texts message, TextFits text) → parse (packet message).payload = .ok message

/-- It is enough that the packet's payload has the layout, and that no layout has a string that is too
long. -/
theorem RoundTrips.of_layout {parse : Bytes → Except PayloadFault μ}
    {Layout : Bytes → List Bytes → μ → Prop} (haccepts : Accepts parse Layout) {packet : μ → Packet}
    {texts : μ → List String} {blobs : μ → List Bytes}
    (hlayout : ∀ message, (∀ text ∈ texts message, TextFits text) →
      (∀ blob ∈ blobs message, blob.length < UInt32.size) →
      Layout (packet message).payload ((texts message).map Utf8.encode) message)
    (hblobs : ∀ payload raw message, Layout payload raw message →
      ∀ blob ∈ blobs message, blob.length < UInt32.size) :
    RoundTrips parse packet texts blobs where
  of_message message htexts hfit := (haccepts.ok_iff _ _).mpr ⟨_, hlayout message htexts hfit⟩
  of_payload payload message hparse htexts := by
    obtain ⟨raw, hread⟩ := (haccepts.ok_iff _ _).mp hparse
    -- the length of a string that was read was read too, so it fits
    have hfit := hblobs payload raw message hread
    exact (haccepts.ok_iff _ _).mpr ⟨_, hlayout message htexts hfit⟩

end RoundTrips

theorem PublicKeyOk.roundTrips :
    RoundTrips parse packet (fun message => [message.algorithm]) fun message => [message.key] := by
  refine .of_layout accepts ?_ ?_
  · intro message htexts hblobs
    simp only [List.forall_mem_singleton] at htexts hblobs
    have hlayout := Layout.mk (isString_encodeString htexts) (isString_encodeString hblobs)
    rwa [Utf8.decodeLossy_encode] at hlayout
  · rintro _ _ _ ⟨-, hkey⟩ blob hblob
    rw [List.mem_singleton.mp hblob]
    exact hkey.content_lt

theorem ChannelOpenConfirmation.roundTrips :
    RoundTrips parse packet (fun _ => []) fun _ => [] := by
  refine .of_layout accepts (fun message _ _ => ?_) (by simp)
  have hlayout : Layout (_ ++ (_ ++ (_ ++ (_ ++ [])))) [] _ :=
    .mk (isWord_encodeWord message.recipient) (isWord_encodeWord message.sender)
      (isWord_encodeWord message.window) (isWord_encodeWord message.maxPacket)
  simp only [List.append_nil, ← List.append_assoc] at hlayout
  exact hlayout

theorem ChannelData.layout_payload {message : ChannelData}
    (h : message.data.length < UInt32.size) : Layout message.payload [] message := by
  have hlayout : Layout (_ ++ (_ ++ [])) [] _ :=
    .mk (isWord_encodeWord message.recipient) (isString_encodeString h)
  rw [List.append_nil] at hlayout
  exact hlayout

/-- The fields make eight bytes, the number and the padding six. -/
theorem ChannelData.totalLength_packet (message : ChannelData) :
    message.packet.totalLength = message.data.length + 14 := by
  rw [packet, Packet.totalLength_ofKind, payload, List.length_append, length_encodeWord,
    length_encodeString]
  omega

theorem ChannelData.roundTrips :
    RoundTrips parse packet (fun _ => []) fun message => [message.data] := by
  refine .of_layout accepts ?_ ?_
  · intro message _ hblobs
    exact layout_payload (hblobs _ (List.mem_singleton.mpr rfl))
  · rintro _ _ _ ⟨-, hdata⟩ blob hblob
    rw [List.mem_singleton.mp hblob]
    exact hdata.content_lt

theorem ChannelRequest.roundTrips :
    RoundTrips parse packet (fun message => [message.requestType]) fun _ => [] := by
  refine .of_layout accepts (fun message htexts _ => ?_) (by simp)
  simp only [List.forall_mem_singleton] at htexts
  have hlayout : Layout (_ ++ (_ ++ (_ ++ message.details))) [_] _ :=
    .mk (isWord_encodeWord message.recipient) (isString_encodeString htexts)
      (isFlag_encodeFlag message.wantReply)
  simp only [Utf8.decodeLossy_encode, ← List.append_assoc] at hlayout
  exact hlayout

theorem Disconnect.roundTrips :
    RoundTrips parse packet (fun message => [message.description, message.language])
      fun _ => [] := by
  refine .of_layout accepts (fun message htexts _ => ?_) (by simp)
  simp only [List.forall_mem_cons, List.not_mem_nil, false_implies, implies_true, and_true] at htexts
  have hlayout : Layout (_ ++ (_ ++ (_ ++ []))) [_, _] _ :=
    .full (isWord_encodeWord message.reason) (isString_encodeString htexts.1)
      (isString_encodeString htexts.2)
  simp only [Utf8.decodeLossy_encode, List.append_nil, ← List.append_assoc] at hlayout
  exact hlayout

theorem Accepts.roundTrips_of_word {μ : Type} {parse : Bytes → Except PayloadFault μ}
    {make : UInt32 → μ} (haccepts : Accepts parse (WordLayout make)) {packet : μ → Packet}
    (h : ∀ word, (packet (make word)).payload = encodeWord word)
    (hmake : ∀ message, ∃ word, make word = message) :
    RoundTrips parse packet (fun _ => []) fun _ => [] := by
  refine .of_layout haccepts (fun message _ _ => ?_) (by simp)
  obtain ⟨word, rfl⟩ := hmake message
  have hlayout : WordLayout make (_ ++ []) [] (make word) := .mk (isWord_encodeWord word)
  rw [List.append_nil] at hlayout
  rw [h]
  exact hlayout

/-! ## Messages of one word -/

/-- The success of a request has number 99 and tells the channel. -/
theorem ChannelSuccess.packet_eq (recipient : UInt32) :
    packet ⟨recipient⟩ = ⟨99, encodeWord recipient, Packet.ownPadding⟩ := rfl

/-- The end of a channel has number 97 and tells the channel. -/
theorem ChannelClose.packet_eq (recipient : UInt32) :
    packet ⟨recipient⟩ = ⟨97, encodeWord recipient, Packet.ownPadding⟩ := rfl

theorem ChannelClose.roundTrips :
    RoundTrips parse packet (fun _ => []) fun _ => [] :=
  accepts.roundTrips_of_word (fun _ => rfl) fun message => ⟨message.recipient, rfl⟩

/-- **Messages come back.** Each of the seven messages that has a reader and a packet is read back from
the payload of its packet, provided that its strings fit into their length fields; and a message that
was read off any payload at all, even one in which a text was no UTF-8, is read back from its own packet
as soon as its texts fit. -/
theorem parse_payload_packet :
    RoundTrips PublicKeyOk.parse PublicKeyOk.packet (fun message => [message.algorithm])
      (fun message => [message.key]) ∧
    RoundTrips ChannelOpenConfirmation.parse ChannelOpenConfirmation.packet (fun _ => [])
      (fun _ => []) ∧
    RoundTrips ChannelData.parse ChannelData.packet (fun _ => []) (fun message => [message.data]) ∧
    RoundTrips ChannelClose.parse ChannelClose.packet (fun _ => []) (fun _ => []) ∧
    RoundTrips ChannelRequest.parse ChannelRequest.packet (fun message => [message.requestType])
      (fun _ => []) ∧
    RoundTrips Disconnect.parse Disconnect.packet
      (fun message => [message.description, message.language]) (fun _ => []) ∧
    RoundTrips Unimplemented.parse Unimplemented.packet (fun _ => []) (fun _ => []) :=
  ⟨PublicKeyOk.roundTrips, ChannelOpenConfirmation.roundTrips, ChannelData.roundTrips,
    ChannelClose.roundTrips, ChannelRequest.roundTrips, Disconnect.roundTrips,
    Unimplemented.accepts.roundTrips_of_word (fun _ => rfl) fun message => ⟨message.sequence, rfl⟩⟩

/-- A request whose type is two bytes that are no UTF-8. It is written with the four bytes of another
type, with a one for the flag, and then comes back. -/
theorem parse_payload_packet_replacement :
    let payload : Bytes := [0, 0, 0, 7, 0, 0, 0, 2, 0xC3, 0x28, 2, 9]
    let request : ChannelRequest := ⟨7, "\uFFFD(", true, [9]⟩
    ChannelRequest.parse payload = .ok request ∧ TextFits request.requestType ∧
      request.packet.payload = [0, 0, 0, 7, 0, 0, 0, 4, 0xEF, 0xBF, 0xBD, 0x28, 1, 9] ∧
      ChannelRequest.parse request.packet.payload = .ok request := by
  intro payload request
  have hparse : ChannelRequest.parse payload = .ok request := by rfl
  have hfits : TextFits request.requestType := by
    unfold TextFits
    decide +kernel
  have hwritten : request.packet.payload
      = [0, 0, 0, 7, 0, 0, 0, 4, 0xEF, 0xBF, 0xBD, 0x28, 1, 9] := by decide +kernel
  obtain ⟨-, -, -, -, hrequest, -⟩ := parse_payload_packet
  refine ⟨hparse, hfits, hwritten, hrequest.of_payload payload request hparse ?_⟩
  intro text htext
  rw [List.mem_singleton.mp htext]
  exact hfits

end MockSsh.Message
