import Mathlib.Data.List.Forall2
import MockSsh.Proofs.Dispatch.History
import MockSsh.Proofs.Packet.Frame

/-!
What the policies have to do with the answer to one packet. The channel policy decides the four bytes in
a confirmation that hold the server's number (`verdict_of_channelPolicy`). The policy on unsupported
messages decides whether such a message is refused (`verdict_of_ignore`), and nothing about any other
one (`dispatch_of_supported`). Who is logged in depends on neither (`authenticated_dispatch`). Which
packets a reply can hold at all is said once (`all_of_result`): what announces a login answers a login,
and what refuses a message or disconnects answers an unsupported one.
-/
namespace MockSsh

/-! ## Related answers -/

/-- The frame which confirms that a channel is open: `recipient` is the peer's number for it, and
`sender`, in four bytes of its own, the server's. -/
def Frame.confirming (recipient sender : UInt32) : Bytes :=
  [0, 0, 0, 22, 4, 91] ++ encodeWord recipient ++ encodeWord sender ++ [0, 0, 128, 0, 0, 0, 128, 0]
    ++ [0, 0, 0, 0]

/-- Two packets with the same frame, or with frames that confirm one channel under the server's numbers
of two policies. -/
inductive Packet.SameButSender (policy other : ChannelPolicy) : Packet → Packet → Prop
  | same (packet : Packet) : SameButSender policy other packet packet
  | confirms {packet confirmed : Packet} (peerId : UInt32)
      (h : packet.encode = Frame.confirming peerId (policy.localId peerId))
      (hother : confirmed.encode = Frame.confirming peerId (other.localId peerId)) :
      SameButSender policy other packet confirmed

theorem Packet.SameButSender.length_encode {policy other : ChannelPolicy} {packet confirmed : Packet}
    (h : packet.SameButSender policy other confirmed) :
    packet.encode.length = confirmed.encode.length := by
  cases h with
  | same => rfl
  | confirms peerId h hother =>
    rw [h, hother]
    rfl

namespace Dispatcher

theorem encode_confirmation (policy : ChannelPolicy) (peerId : UInt32) :
    (confirmation policy peerId).encode = Frame.confirming peerId (policy.localId peerId) := by
  have htotal : (confirmation policy peerId).totalLength = 22 := rfl
  have hlength : encodeWord (UInt32.ofNat 22) = [0, 0, 0, 22] := by decide
  have hlimit : encodeWord Message.ChannelOpenConfirmation.ownLimit = [0, 0, 128, 0] := by decide
  rw [Packet.encode, htotal, hlength]
  simp only [confirmation, Message.ChannelOpenConfirmation.packet,
    Message.ChannelOpenConfirmation.payload, hlimit]
  rfl

/-- Two answers, or faults, that differ at most in the replies, and there as `related` says. -/
inductive Parallel (related : List Packet → List Packet → Prop) :
    Except Fault Answer → Except Fault Answer → Prop
  | fails (fault : Fault) : Parallel related (.error fault) (.error fault)
  | answers {replies others : List Packet} (next : Next) (h : related replies others) :
      Parallel related (.ok ⟨replies, next⟩) (.ok ⟨others, next⟩)

theorem parallel_answerTo {related : List Packet → List Packet → Prop} {μ : Type}
    (parsed : Except PayloadFault μ) {answer other : μ → Answer}
    (h : ∀ message, Parallel related (.ok (answer message)) (.ok (other message))) :
    Parallel related (answerTo parsed answer) (answerTo parsed other) := by
  cases parsed with
  | error fault => exact .fails (.payload fault)
  | ok message => exact h message

/-- **The channel policy** shows in confirmations alone, and there in the server's number alone. -/
theorem verdict_of_channelPolicy (policy other : ChannelPolicy)
    (unsupportedPolicy : UnsupportedPolicy) (markers : Markers) (inbound : Inbound) :
    Parallel (List.Forall₂ (Packet.SameButSender policy other))
      (verdict policy unsupportedPolicy markers inbound)
      (verdict other unsupportedPolicy markers inbound) := by
  have same (answer : Answer) :
      Parallel (List.Forall₂ (Packet.SameButSender policy other)) (.ok answer) (.ok answer) :=
    .answers answer.next (List.forall₂_same.mpr fun packet _ => .same packet)
  unfold verdict
  cases inbound.packet.kind? with
  | none => exact same _
  | some kind =>
    cases kind with
    | channelOpen =>
      refine parallel_answerTo _ fun message => .answers .proceed ?_
      exact .cons (.confirms message.sender (encode_confirmation policy _)
        (encode_confirmation other _)) .nil
    | channelRequest | channelData | channelClose | disconnect =>
      exact parallel_answerTo _ fun message => same _
    | ignore | unimplemented | debug | serviceRequest | serviceAccept | keyExchangeInit | newKeys
    | authRequest | authFailure | authSuccess | authPublicKeyOk | channelOpenConfirmation
    | channelWindowAdjust | channelEnd | channelSuccess => exact same _

/-- The replies without those that refuse a message. -/
def unrefused (replies : List Packet) : List Packet :=
  replies.filter (·.number != 3)

theorem unrefused_append (replies others : List Packet) :
    unrefused (replies ++ others) = unrefused replies ++ unrefused others :=
  List.filter_append replies others

/-- **To ignore** unsupported messages is to refuse them and to hold the refusals back. -/
theorem verdict_of_ignore (policy : ChannelPolicy) (markers : Markers) (inbound : Inbound) :
    Parallel (fun ignored refused => ignored = unrefused refused)
      (verdict policy .ignore markers inbound) (verdict policy .unimplemented markers inbound) := by
  have hsilent : Parallel (fun ignored refused => ignored = unrefused refused)
      (.ok .silent) (.ok .silent) := .answers .proceed rfl
  have hrefused : Parallel (fun ignored refused => ignored = unrefused refused)
      (.ok (unsupportedAnswer .ignore inbound)) (.ok (unsupportedAnswer .unimplemented inbound)) :=
    .answers .proceed rfl
  unfold verdict
  cases inbound.packet.kind? with
  | none => exact hrefused
  | some kind =>
    cases kind with
    | serviceRequest | keyExchangeInit | newKeys => exact .answers .proceed rfl
    | authRequest =>
      refine .answers .proceed ?_
      split <;> rfl
    | channelOpen | channelData =>
      exact parallel_answerTo _ fun message => .answers .proceed rfl
    | channelRequest =>
      refine parallel_answerTo _ fun message => .answers .proceed ?_
      split <;> split <;> rfl
    | channelClose => exact parallel_answerTo _ fun _ => hsilent
    | disconnect => exact parallel_answerTo _ fun message => .answers (.peerDisconnected message) rfl
    | ignore | unimplemented | debug | channelWindowAdjust | channelEnd => exact hsilent
    | serviceAccept | authFailure | authSuccess | authPublicKeyOk | channelOpenConfirmation
    | channelSuccess => exact hrefused

end Dispatcher

/-! ## Supported messages -/

/-- Whether the server answers such a message in a way of its own. -/
def Message.Kind.isHandled : Message.Kind → Bool
  | .disconnect | .serviceRequest | .keyExchangeInit | .newKeys | .authRequest | .channelOpen
  | .channelData | .channelClose | .channelRequest => true
  | _ => false

/-- Whether the packet holds a message that the server handles or consumes silently. -/
def Packet.isSupported (packet : Packet) : Bool :=
  packet.kind?.any fun kind => kind.isHandled || kind.isSilent

namespace Dispatcher

variable {κ : Type}

/-- The same dispatcher under another policy on unsupported messages. -/
def withUnsupported (dispatcher : Dispatcher κ) (policy : UnsupportedPolicy) : Dispatcher κ :=
  { dispatcher with unsupportedPolicy := policy }

variable [KeyExchange κ]

/-- A supported message meets nothing of the policy on the others. -/
theorem dispatch_of_supported (dispatcher : Dispatcher κ) (connection : Connection)
    {inbound : Inbound} (h : inbound.packet.isSupported) (policy : UnsupportedPolicy) :
    (dispatcher.withUnsupported policy).dispatch connection inbound
      = { dispatcher.dispatch connection inbound with
          dispatcher := (dispatcher.dispatch connection inbound).dispatcher.withUnsupported
            policy } := by
  unfold Packet.isSupported at h
  unfold dispatch answer
  cases hkind : inbound.packet.kind? with
  | none =>
    rw [hkind] at h
    cases h
  | some kind =>
    rw [hkind] at h
    cases kind with
    | serviceAccept | authFailure | authSuccess | authPublicKeyOk | channelOpenConfirmation
    | channelSuccess => cases h
    | _ => rfl

/-- Any other message is left to the policy. -/
theorem result_of_unsupported (dispatcher : Dispatcher κ) (connection : Connection)
    (inbound : Inbound) (h : inbound.packet.isSupported = false) :
    (dispatcher.dispatch connection inbound).result
      = .ok (unsupportedAnswer dispatcher.unsupportedPolicy inbound) := by
  have hresult := result_unsupported connection dispatcher.unsupportedPolicy inbound
  unfold Packet.isSupported at h
  unfold dispatch answer
  cases hkind : inbound.packet.kind? with
  | none => exact hresult
  | some kind =>
    rw [hkind] at h
    cases kind with
    | serviceAccept | authFailure | authSuccess | authPublicKeyOk | channelOpenConfirmation
    | channelSuccess => exact hresult
    | _ => cases h

/-! ## Replies -/

/-- **The replies** to a packet. The success of a login is told to a login request that succeeds;
refusals and farewells answer messages that are not supported; all other replies are of other kinds. -/
theorem all_of_result {P : Packet → Prop} {dispatcher : Dispatcher κ} {connection : Connection}
    {inbound : Inbound} {answer : Answer}
    (h : (dispatcher.dispatch connection inbound).result = .ok answer)
    (hother : ∀ kind payload, kind ∉ [.authSuccess, .unimplemented, .disconnect] →
      P (.ofKind kind payload))
    (hlogin : dispatcher.markers.logsIn inbound.packet = true → P Message.authSuccess)
    (hunsupported : inbound.packet.isSupported = false →
      (unsupportedAnswer dispatcher.unsupportedPolicy inbound).All P) : answer.All P := by
  cases hsupported : inbound.packet.isSupported with
  | false =>
    cases h.symm.trans (dispatcher.result_of_unsupported connection inbound hsupported)
    exact hunsupported hsupported
  | true =>
    unfold Packet.isSupported at hsupported
    unfold Markers.logsIn at hlogin
    unfold dispatch Dispatcher.answer at h
    cases hkind : inbound.packet.kind? with
    | none =>
      rw [hkind] at hsupported
      cases hsupported
    | some kind =>
      rw [hkind] at h hsupported hlogin
      cases kind with
      | authRequest =>
        simp only [result_authRequest, Except.ok.injEq] at h hlogin
        subst h
        split
        · next hlogsIn => exact Answer.all_reply (hlogin hlogsIn)
        · exact Answer.all_reply (hother _ _ (by decide))
      | keyExchangeInit | newKeys | channelOpen =>
        simp only [keyExchangeInit, newKeys, Connection.channelOpen] at h
        split at h
        · cases h
        · cases h
          exact Answer.all_reply (hother _ _ (by decide))
      | channelRequest =>
        simp only [result_channelRequest] at h
        obtain ⟨message, -, rfl⟩ := answerTo_eq_ok_iff.mp h
        exact all_requestAnswer (hother _ _ (by decide)) (hother _ _ (by decide))
          (hother _ _ (by decide))
      | channelData =>
        simp only [result_channelData] at h
        obtain ⟨message, -, rfl⟩ := answerTo_eq_ok_iff.mp h
        exact Answer.all_reply (hother _ _ (by decide))
      | channelClose | disconnect =>
        simp only [result_channelClose, result_disconnect] at h
        obtain ⟨message, -, rfl⟩ := answerTo_eq_ok_iff.mp h
        exact Answer.all_silent
      | serviceRequest =>
        cases h
        exact Answer.all_reply (hother _ _ (by decide))
      | ignore | unimplemented | debug | channelWindowAdjust | channelEnd =>
        cases h
        exact Answer.all_silent
      | serviceAccept | authFailure | authSuccess | authPublicKeyOk | channelOpenConfirmation
      | channelSuccess => cases hsupported

end Dispatcher

/-! ## Logging in -/

/-- **Who is logged in** after a packet depends on the packet and the markers, whatever the policies. -/
theorem Dispatcher.authenticated_dispatch {κ : Type} [KeyExchange κ] (dispatcher : Dispatcher κ)
    (connection : Connection) (inbound : Inbound) :
    (dispatcher.dispatch connection inbound).connection.authenticated
      = (connection.authenticated || dispatcher.markers.logsIn inbound.packet) := by
  rw [connection_dispatch]

end MockSsh
