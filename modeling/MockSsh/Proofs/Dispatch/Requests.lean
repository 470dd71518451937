import MockSsh.Proofs.Dispatch.Step
import MockSsh.Proofs.Message.RoundTrip
import MockSsh.Proofs.Packet.Frame

/-!
Requests on a channel, told by the bytes of their payload. `ChannelRequest.parse_eq` gives the fields
by their places, and the first of them that is cut short where the payload holds no request. The type
of a request is read as text, but only the bytes of "exec" are read as that text
(`ChannelRequest.decodeLossy_eq_exec_iff`); so the bytes alone decide what is answered and which
channel ends (`Dispatcher.dispatch_channelRequest`).
-/
namespace MockSsh

namespace Message

/-- The number in the four bytes from a place on, the most significant first. -/
def numberAt (payload : Bytes) (place : Nat) : Nat :=
  Frame.total (payload.drop place)

theorem IsWord.total_append {field : Bytes} {word : UInt32} (h : IsWord field word) (rest : Bytes) :
    Frame.total (field ++ rest) = word.toNat := by
  obtain ⟨hvalue⟩ := h
  rw [hvalue]
  simp only [Frame.total, List.cons_append, List.take_succ_cons, List.take_zero, List.foldl_cons,
    List.foldl_nil]
  omega

/-- Where four bytes are left, they are a word. -/
theorem exists_isWord_at {payload : Bytes} {place : Nat} (h : place + 4 ≤ payload.length) :
    ∃ word, IsWord ((payload.drop place).take 4) word ∧ word.toNat = numberAt payload place := by
  have hleft : 4 ≤ (payload.drop place).length := by
    rw [List.length_drop]
    omega
  obtain ⟨field, word, rest, hword, hrest⟩ := exists_isWord hleft
  refine ⟨word, ?_, ?_⟩
  · rwa [hrest, List.take_left' hword.length]
  · rw [numberAt, hrest, hword.total_append]

namespace ChannelRequest

/-- Behind its two words, a request has as many bytes of its type as the second of them says, a byte
for the flag, and the details. -/
theorem parse_append {first second : Bytes} {recipient length : UInt32}
    (hrecipient : IsWord first recipient) (hlength : IsWord second length) (rest : Bytes) :
    let payload := first ++ (second ++ rest)
    let size := payload.length
    parse payload =
      if rest.length < length.toNat then .error (.stringCut length.toNat 8 size)
      else if rest.length = length.toNat then .error (.flagCut size size)
      else .ok ⟨recipient, Utf8.decodeLossy (rest.take length.toNat),
        rest.getD length.toNat 0 != 0, rest.drop (length.toNat + 1)⟩ := by
  intro payload size
  have hplace : size - rest.length = 8 := by
    simp only [size, payload, List.length_append, hrecipient.length, hlength.length]
    omega
  show (Cursor.word ⟨size, payload⟩ >>= _) = _
  rw [Cursor.takes_word.append hrecipient]
  simp only [bind, Except.bind, pure, Except.pure, Cursor.text, Cursor.string, Cursor.flag,
    Cursor.takes_word.append hlength, Cursor.offset, hplace]
  by_cases hcut : rest.length < length.toNat
  · rw [if_pos hcut, if_neg (Nat.not_le.mpr hcut)]
  rw [if_neg hcut, if_pos (Nat.le_of_not_lt hcut)]
  by_cases hend : rest.length = length.toNat
  · rw [if_pos hend, List.drop_eq_nil_of_le (Nat.le_of_eq hend)]
    rfl
  · have hflag : length.toNat < rest.length := by omega
    rw [if_neg hend, List.drop_eq_getElem_cons hflag, List.getD_eq_getElem?_getD,
      List.getElem?_eq_getElem hflag]
    rfl

/-- **A request is read** at fixed places: its recipient, the length of its type, the type, the flag
and the details. -/
theorem parse_eq (payload : Bytes) :
    let size := payload.length
    let length := numberAt payload 4
    parse payload =
      if size < 4 then .error (.wordCut 0 size)
      else if size < 8 then .error (.wordCut 4 size)
      else if size < 8 + length then .error (.stringCut length 8 size)
      else if size = 8 + length then .error (.flagCut size size)
      else .ok ⟨UInt32.ofNat (numberAt payload 0), Utf8.decodeLossy ((payload.drop 8).take length),
        payload.getD (8 + length) 0 != 0, payload.drop (9 + length)⟩ := by
  by_cases hshort : payload.length < 8
  · rcases payload with _ | ⟨a, _ | ⟨b, _ | ⟨c, _ | ⟨d, _ | ⟨e, _ | ⟨f, _ | ⟨g, _ | ⟨h, rest⟩⟩⟩⟩⟩⟩⟩⟩
    case cons.cons.cons.cons.cons.cons.cons.cons =>
      simp only [List.length_cons] at hshort
      omega
    all_goals rfl
  obtain ⟨recipient, hrecipient, hfirst⟩ :=
    exists_isWord_at (show 0 + 4 ≤ payload.length by omega)
  obtain ⟨word, hword, hlength⟩ := exists_isWord_at (show 4 + 4 ≤ payload.length by omega)
  -- the bytes behind the two words are those from the eighth place on
  have hbehind : (payload.drop 4).take 4 ++ payload.drop 8 = payload.drop 4 := by
    rw [show payload.drop 8 = (payload.drop 4).drop 4 by rw [List.drop_drop],
      List.take_append_drop]
  have hpayload : (payload.drop 0).take 4 ++ ((payload.drop 4).take 4 ++ payload.drop 8) = payload := by
    rw [hbehind, List.drop_zero, List.take_append_drop]
  have hparse := parse_append hrecipient hword (payload.drop 8)
  simp only [hpayload, hlength, List.length_drop, List.drop_drop, List.getD_eq_getElem?_getD,
    List.getElem?_drop] at hparse
  intro size length
  rw [hparse, ← hfirst, UInt32.ofNat_toNat, if_neg (show ¬ size < 4 by omega),
    if_neg (show ¬ size < 8 by omega)]
  by_cases hcut : size < 8 + length
  · rw [if_pos hcut, if_pos (show size - 8 < length by omega)]
  rw [if_neg hcut, if_neg (show ¬ size - 8 < length by omega)]
  by_cases hend : size = 8 + length
  · rw [if_pos hend, if_pos (show size - 8 = length by omega)]
  · have hdetails : 8 + (length + 1) = 9 + length := by omega
    rw [if_neg hend, if_neg (show ¬ size - 8 = length by omega), List.getD_eq_getElem?_getD, hdetails]

theorem toOption_parse (payload : Bytes) :
    let length := numberAt payload 4
    (parse payload).toOption =
      if 8 ≤ payload.length ∧ 8 + length < payload.length then
        some ⟨UInt32.ofNat (numberAt payload 0), Utf8.decodeLossy ((payload.drop 8).take length),
          payload.getD (8 + length) 0 != 0, payload.drop (9 + length)⟩
      else none := by
  intro length
  rw [parse_eq]
  by_cases hfits : 8 ≤ payload.length ∧ 8 + length < payload.length
  · rw [if_neg (show ¬ payload.length < 4 by omega), if_neg (show ¬ payload.length < 8 by omega),
      if_neg (show ¬ payload.length < 8 + length by omega),
      if_neg (show ¬ payload.length = 8 + length by omega), if_pos hfits]
    rfl
  · rw [if_neg hfits]
    split
    · rfl
    split
    · rfl
    split
    · rfl
    rw [if_pos (by omega)]
    rfl

/-- **To run a command** is asked by four bytes and by no others: what a malformed type is read as holds a
replacement, and "exec" holds none. -/
theorem decodeLossy_eq_exec_iff {bytes : Bytes} :
    Utf8.decodeLossy bytes = "exec" ↔ bytes = [101, 120, 101, 99] := by
  have hwhole : Utf8.replacement ∉ "exec".toList := by decide
  have hbytes : Utf8.encode "exec" = [101, 120, 101, 99] := by decide +kernel
  rw [Utf8.decodeLossy_eq_iff hwhole, hbytes]

theorem isExec_of_bytes {message : ChannelRequest} {bytes : Bytes}
    (h : message.requestType = Utf8.decodeLossy bytes) :
    message.isExec = (bytes == [101, 120, 101, 99]) := by
  rw [Bool.eq_iff_iff, isExec, h, beq_iff_eq, beq_iff_eq, decodeLossy_eq_exec_iff]

theorem parse_exitStatus (recipient status : UInt32) :
    parse (exitStatus recipient status).packet.payload = .ok (exitStatus recipient status) := by
  refine roundTrips.of_message _ (List.forall_mem_singleton.mpr ?_) (by simp)
  show (Utf8.encode "exit-status").length < UInt32.size
  decide +kernel

theorem exitCode?_exitStatus (recipient status : UInt32) :
    (exitStatus recipient status).exitCode? = some status := by
  have hword : Cursor.word ⟨4, encodeWord status⟩ = .ok (status, ⟨4, []⟩) := by
    simpa using Cursor.takes_word.append (isWord_encodeWord status) 4 []
  show ((Cursor.word ⟨4, encodeWord status⟩).toOption.map Prod.fst) = some status
  rw [hword]
  rfl

end ChannelRequest
end Message

namespace Dispatcher

variable {κ : Type} [KeyExchange κ]

omit [KeyExchange κ] in
theorem toOption_answerTo {μ : Type} (parsed : Except PayloadFault μ) (answer : μ → Answer) :
    (answerTo parsed answer).toOption = parsed.toOption.map answer := by
  cases parsed <;> rfl

/-- **Requests are decided by bytes.** A request is answered if and only if both words are there and a byte
follows the type, which is as long as the second word says. That byte tells whether the success is
reported. The exit status, which is read back as code zero with no reply wanted, and the close are sent,
and the channel is closed, where the bytes of the type are those of "exec"; and what is read as "exec" are
these bytes alone, whatever ill-formed text stands in their place. The success is a packet of number 99,
the close one of number 97, and the payload of both is the word of the channel. -/
theorem dispatch_channelRequest (dispatcher : Dispatcher κ) (connection : Connection)
    (sequence : UInt32) (payload : Bytes) (padding : UInt8) :
    let recipient := UInt32.ofNat (Message.numberAt payload 0)
    let length := Message.numberAt payload 4
    let wanted : Bool := payload.getD (8 + length) 0 != 0
    let runs : Bool := (payload.drop 8).take length == [101, 120, 101, 99]
    let success := Message.ChannelSuccess.packet ⟨recipient⟩
    let status := (Message.ChannelRequest.exitStatus recipient 0).packet
    let close := Message.ChannelClose.packet ⟨recipient⟩
    let outcome := dispatcher.dispatch connection ⟨sequence, ⟨98, payload, padding⟩⟩
    (outcome.result.toOption, outcome.connection) =
      (if 8 ≤ payload.length ∧ 8 + length < payload.length then
        (some ⟨(if wanted then [success] else []) ++ (if runs then [status, close] else []), .proceed⟩,
          { connection with
            channels := if runs then (connection.channels.close recipient).2
              else connection.channels })
      else (none, connection)) ∧
    (∃ request, status.kind? = some .channelRequest ∧
      Message.ChannelRequest.parse status.payload = .ok request ∧ request.recipient = recipient ∧
      request.requestType = "exit-status" ∧ request.wantReply = false ∧ request.exitCode? = some 0) ∧
    (success = ⟨99, encodeWord recipient, 4⟩ ∧ close = ⟨97, encodeWord recipient, 4⟩ ∧
      Message.ChannelClose.parse close.payload = .ok ⟨recipient⟩) ∧
    ∀ bytes, Utf8.decodeLossy bytes = "exec" ↔ bytes = [101, 120, 101, 99] := by
  intro recipient length wanted runs success status close outcome
  have hresult : outcome.result = answerTo (Message.ChannelRequest.parse payload) requestAnswer :=
    result_channelRequest connection payload
  have hconnection : outcome.connection = _ := connection.connection_channelRequest payload
  have hread := Message.ChannelClose.roundTrips.of_message ⟨recipient⟩ (by simp) (by simp)
  refine ⟨?_, ⟨.exitStatus recipient 0, rfl, Message.ChannelRequest.parse_exitStatus recipient 0, rfl,
    rfl, rfl, Message.ChannelRequest.exitCode?_exitStatus recipient 0⟩,
    ⟨Message.ChannelSuccess.packet_eq recipient, Message.ChannelClose.packet_eq recipient, hread⟩,
    fun bytes => Message.ChannelRequest.decodeLossy_eq_exec_iff⟩
  rw [hresult, hconnection, toOption_answerTo, Message.ChannelRequest.toOption_parse]
  by_cases hfits : 8 ≤ payload.length ∧ 8 + length < payload.length
  · rw [if_pos hfits, if_pos hfits]
    let request : Message.ChannelRequest := ⟨recipient,
      Utf8.decodeLossy ((payload.drop 8).take length), wanted, payload.drop (9 + length)⟩
    have hexec : request.isExec = runs := Message.ChannelRequest.isExec_of_bytes rfl
    have hchannels : connection.channels.after
        (((some request).filter (·.isExec)).map (.closes ·.recipient)) =
          if runs then (connection.channels.close recipient).2 else connection.channels := by
      cases hruns : runs with
      | false =>
        rw [Option.filter_some_neg (by simp [hexec, hruns])]
        rfl
      | true =>
        rw [Option.filter_some_pos (hexec.trans hruns)]
        rfl
    have hanswer : requestAnswer request =
        ⟨(if wanted then [success] else []) ++ (if runs then [status, close] else []), .proceed⟩ := by
      rw [← hexec]
      rfl
    rw [hchannels, Option.map_some, hanswer]
  · rw [if_neg hfits, if_neg hfits]
    rfl

end Dispatcher
end MockSsh
