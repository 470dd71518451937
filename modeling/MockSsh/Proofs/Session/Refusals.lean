import MockSsh.Proofs.Session.Stages

/-!
Sessions that refuse unsupported messages. Each of them is refused under its own number, in its
order, and nothing else is refused: the refusals among all the packets written are those of the
unsupported packets among all that were taken (`filter_writes`). Where every write is taken whole a
refusal is never the end of the session (`goes_on_of_unsupported`), and the output is the frames of
what was written.
-/
namespace MockSsh

variable {κ : Type}

/-! ## One packet -/

/-- The refusal of the packet with this index among those that came. -/
def Packet.refusal (index : Nat) : Packet :=
  .ofKind .unimplemented (encodeWord (UInt32.ofNat index))

/-- The refusals of packets that came from the index `first` on: of those that are not supported. -/
def Packet.refusals (packets : List Packet) (first : Nat) : List Packet :=
  ((packets.zipIdx first).filter (!·.1.isSupported)).map (refusal ·.2)

theorem Packet.refusals_append (packets later : List Packet) (first : Nat) :
    refusals (packets ++ later) first
      = refusals packets first ++ refusals later (first + packets.length) := by
  simp only [refusals, List.zipIdx_append, List.filter_append, List.map_append]

/-- Whether a packet refuses another. -/
def Packet.isRefusal (packet : Packet) : Bool :=
  packet.number == 3

theorem Packet.isRefusal_ofKind {kind : Message.Kind} (h : kind ≠ .unimplemented)
    (payload : Bytes) : (Packet.ofKind kind payload).isRefusal = false := by
  cases kind <;> first | rfl | exact absurd rfl h

variable [KeyExchange κ]

/-- Replies to a supported packet refuse nothing. -/
theorem Dispatcher.no_refusal_of_supported {dispatcher : Dispatcher κ} {connection : Connection}
    {inbound : Inbound} (hsupported : inbound.packet.isSupported = true) {answer : Answer}
    (h : (dispatcher.dispatch connection inbound).result = .ok answer) :
    answer.All fun reply => reply.isRefusal = false := by
  refine all_of_result h (fun kind payload hkind => ?_) (fun _ => rfl) (fun hunsupported => ?_)
  · refine Packet.isRefusal_ofKind (fun hrefusal => hkind ?_) payload
    rw [hrefusal]
    decide
  · cases hsupported.symm.trans hunsupported

namespace Session

/-! ## The refusals -/

/-- **A turn** refuses what it takes, under its index, unless that is supported. -/
theorem filter_turnWrites {session : Session κ}
    (hpolicy : session.dispatcher.unsupportedPolicy = .unimplemented) {index : Nat}
    (hcount : session.transport.packetsReceived = UInt32.ofNat index) :
    (session.turnWrites.map Prod.fst).filter (·.isRefusal)
      = Packet.refusals session.incoming?.toList index := by
  rcases session.turn_cases with
    ⟨packet, transport, htakes⟩ | ⟨line, transport, hgreets⟩ | ⟨result, transport, hstops⟩
  · rw [htakes.writes, htakes.incoming, answerWrites]
    simp only
    cases hsupported : packet.isSupported with
    | true =>
      have hnone : Packet.refusals (some packet).toList index = [] := by
        simp [Packet.refusals, hsupported]
      rw [hnone, List.filter_eq_nil_iff]
      intro reply hreply
      obtain ⟨write, hwrite, rfl⟩ := List.mem_map.mp hreply
      split at hwrite
      · next answer hresult =>
        have hquiet := Dispatcher.no_refusal_of_supported hsupported hresult
        simp [hquiet _ (Transport.mem_of_mem_writes hwrite)]
      · cases hwrite
    | false =>
      have hone : Packet.refusals (some packet).toList index = [Packet.refusal index] := by
        simp [Packet.refusals, hsupported]
      have hresult := session.dispatcher.result_of_unsupported session.connection
        ⟨session.transport.packetsReceived, packet⟩ hsupported
      rw [hresult, hpolicy, hcount, hone]
      simp only [Dispatcher.unsupportedAnswer, Answer.reply, Answer.ofReplies, Transport.writes]
      split <;> rfl
  · rw [hgreets.writes, hgreets.incoming]
    rfl
  · rw [hstops.writes, hstops.incoming]
    rfl

/-- **All refusals**: the induction is on the turns, and carries the number of the packets so far. -/
theorem filter_writes {session : Session κ}
    (hpolicy : session.dispatcher.unsupportedPolicy = .unimplemented) {index : Nat}
    (hcount : session.transport.packetsReceived = UInt32.ofNat index) :
    (session.writes.map Prod.fst).filter (·.isRefusal)
      = Packet.refusals session.decoded index := by
  induction session using turn_induction generalizing index with
  | ended session result hended =>
    rw [writes_of_ended hended, decoded_of_ended hended]
    exact filter_turnWrites hpolicy hcount
  | goesOn session hgoes ih =>
    obtain ⟨hkept, hnext⟩ := session.kept_turn
    rw [hcount, ← UInt32.ofNat_add] at hnext
    rw [writes_of_goes_on hgoes, decoded_of_goes_on hgoes, List.map_append, List.filter_append,
      Packet.refusals_append, filter_turnWrites hpolicy hcount,
      ih (hkept.unsupportedPolicy.trans hpolicy) hnext]

/-- **A refusal** is not the end, if it is taken whole. -/
theorem goes_on_of_unsupported {session : Session κ}
    (hpolicy : session.dispatcher.unsupportedPolicy = .unimplemented)
    (h : session.transport.stream.Accepting) {packet : Packet}
    (hincoming : session.incoming? = some packet) (hunsupported : packet.isSupported = false) :
    session.turn.ended = none := by
  rcases session.turn_cases with
    ⟨taken, transport, htakes⟩ | ⟨line, transport, hgreets⟩ | ⟨result, transport, hstops⟩
  · obtain rfl := Option.some.inj (htakes.incoming.symm.trans hincoming)
    have hanswer := @answerPacket_of_accepting κ { session with transport } _
      (htakes.stream.accepting h) ⟨session.transport.packetsReceived, taken⟩
    have hresult := session.dispatcher.result_of_unsupported session.connection
      ⟨session.transport.packetsReceived, taken⟩ hunsupported
    rw [hpolicy] at hresult
    rw [htakes.turn, hanswer]
    simp only [hresult]
    rfl
  · cases hgreets.incoming.symm.trans hincoming
  · cases hstops.incoming.symm.trans hincoming

/-- **Refusals name the right packet.** Let a fresh session refuse unsupported messages, over a
stream on which no write and no flush fails. It writes its line and the frames of its packets,
unless no line of the peer came; and the refusals among those packets are, in their order, those of
the packets that were taken and are not supported, each with the four bytes of the packet's index
among all that were taken. The turn that takes such a packet is not the last. -/
theorem refusals_of_run (stream : Stream) (h : stream.Accepting) (config : Config) (peer : String)
    (exchange : κ) :
    let session := fresh stream { config with unsupportedPolicy := .unimplemented } peer exchange
    let sent := session.writes.map Prod.fst
    session.run.session.written
      = stream.written ++ output config session.run.session.peerLine sent ∧
    sent.filter (·.number == 3)
      = ((session.decoded.zipIdx.filter fun entry => !entry.1.isSupported).map fun entry =>
          .ofKind .unimplemented (encodeWord (UInt32.ofNat entry.2))) ∧
    session.decoded = session.stages.filterMap (·.incoming?) ∧
    ∀ stage ∈ session.stages, ∀ packet, stage.incoming? = some packet →
      packet.isSupported = false → stage.turn.ended = none := by
  intro session sent
  have hline : session.run.session.peerLine = session.converse.session.peerLine := by
    rw [run_session, leave_fst]
  refine ⟨?_, filter_writes rfl rfl, ?_, ?_⟩
  · rw [written_run, hline]
    exact written_of_versionExchange rfl h rfl
  · rw [decoded_eq, List.filterMap_eq_flatMap_toList]
  · have hstages : ∀ stage ∈ session.stages,
        stage.dispatcher.unsupportedPolicy = .unimplemented ∧ stage.transport.stream.Accepting :=
      forall_stages (fun stage hstage =>
        ⟨stage.kept_turn.1.unsupportedPolicy.trans hstage.1, accepting_turn hstage.2⟩) ⟨rfl, h⟩
    intro stage hmem packet hincoming hunsupported
    exact goes_on_of_unsupported (hstages stage hmem).1 (hstages stage hmem).2 hincoming hunsupported

/-- Four packets with a fault behind them: one that is consumed silently, one of an unknown number,
new keys, and a message that only a server sends. The second and the fourth are refused, and the
session waits for the fifth. -/
theorem refusals_of_run_mixed :
    let stream : Stream := { Stream.ofChunks [[83, 83, 72, 45, 10, 0, 0, 0, 2, 0, 2, 0, 0, 0, 2],
      [0, 80, 0, 0, 0, 2, 0, 21, 0, 0, 0, 2, 0, 52]] with ending := some ⟨.timedOut, "late"⟩ }
    let session := fresh stream { Config.default with unsupportedPolicy := .unimplemented } "peer"
      Cleartext.fresh
    stream.Accepting ∧ session.decoded.map (·.number) = [2, 80, 21, 52] ∧ session.stages.length = 6 ∧
      (session.writes.map Prod.fst).filter (·.number == 3)
        = [.ofKind .unimplemented [0, 0, 0, 1], .ofKind .unimplemented [0, 0, 0, 3]] := by
  intro stream session
  have haccepting : stream.Accepting := ⟨rfl, rfl⟩
  obtain ⟨-, hrefusals, -, -⟩ :=
    refusals_of_run stream haccepting Config.default "peer" Cleartext.fresh
  refine ⟨haccepting, by decide +kernel, by decide +kernel, hrefusals.trans ?_⟩
  decide +kernel

end Session
end MockSsh
