import MockSsh.Proofs.Dispatch.Step
import MockSsh.Proofs.Message.RoundTrip

/-!
Packets one after the other. Whatever came before, well formed or not, the table of the connection
stays well filed and the settings stay as they are; so every packet is answered as if it were the
first.
-/
namespace MockSsh
namespace Dispatcher

variable {κ : Type} [KeyExchange κ]

/-- The dispatcher and the connection after some packets, whether or not they could be answered. -/
def dispatchAll (dispatcher : Dispatcher κ) (connection : Connection) :
    List Inbound → Dispatcher κ × Connection
  | [] => (dispatcher, connection)
  | inbound :: rest =>
    let outcome := dispatcher.dispatch connection inbound
    outcome.dispatcher.dispatchAll outcome.connection rest

/-- What every sequence of packets leaves as it was: the settings, the policy of the channel table
and its good order. -/
structure Settled (unsupportedPolicy : UnsupportedPolicy) (markers : Markers)
    (channelPolicy : ChannelPolicy) (dispatcher : Dispatcher κ) (connection : Connection) :
    Prop where
  unsupportedPolicy : dispatcher.unsupportedPolicy = unsupportedPolicy
  markers : dispatcher.markers = markers
  channelPolicy : connection.channels.policy = channelPolicy
  wellFiled : connection.channels.WellFiled

section Settled

variable {unsupportedPolicy : UnsupportedPolicy} {markers : Markers}
  {channelPolicy : ChannelPolicy} {dispatcher : Dispatcher κ} {connection : Connection}

omit [KeyExchange κ] in
theorem Settled.fresh (unsupportedPolicy : UnsupportedPolicy) (markers : Markers)
    (channelPolicy : ChannelPolicy) (exchange : κ) (peer : String) :
    Settled unsupportedPolicy markers channelPolicy ⟨unsupportedPolicy, markers, exchange⟩
      (.fresh channelPolicy peer) :=
  ⟨rfl, rfl, rfl, .empty channelPolicy⟩

theorem Settled.dispatch
    (h : Settled unsupportedPolicy markers channelPolicy dispatcher connection)
    (inbound : Inbound) :
    Settled unsupportedPolicy markers channelPolicy
      (dispatcher.dispatch connection inbound).dispatcher
      (dispatcher.dispatch connection inbound).connection := by
  obtain ⟨hpolicy, hmarkers⟩ := dispatcher.settings_dispatch connection inbound
  have hstep := (dispatcher.step_dispatch connection inbound).channels
  exact ⟨hpolicy.trans h.unsupportedPolicy, hmarkers.trans h.markers,
    hstep.policy_eq.trans h.channelPolicy, hstep.wellFiled h.wellFiled⟩

theorem Settled.dispatchAll
    (h : Settled unsupportedPolicy markers channelPolicy dispatcher connection)
    (history : List Inbound) :
    Settled unsupportedPolicy markers channelPolicy
      (dispatcher.dispatchAll connection history).1
      (dispatcher.dispatchAll connection history).2 := by
  induction history generalizing dispatcher connection with
  | nil => exact h
  | cons inbound rest ih => exact ih (h.dispatch inbound)

end Settled

/-- A settled dispatcher gives the verdict of its settings. -/
theorem Settled.result {unsupportedPolicy : UnsupportedPolicy} {markers : Markers}
    {channelPolicy : ChannelPolicy} {dispatcher : Dispatcher Cleartext} {connection : Connection}
    (h : Settled unsupportedPolicy markers channelPolicy dispatcher connection)
    (inbound : Inbound) :
    (dispatcher.dispatch connection inbound).result
      = verdict channelPolicy unsupportedPolicy markers inbound := by
  rw [dispatcher.result_dispatch h.wellFiled, h.channelPolicy, h.unsupportedPolicy, h.markers]

/-- **Answers do not depend on history.** After any packets, a packet is answered as it is by a
fresh dispatcher on a fresh connection with the same settings; in particular a channel is always
confirmed with the number that the policy gives, be it new, open, or closed and opened again. The
confirmation is a packet of number 91, from which the two numbers and the server's limits are read. -/
theorem dispatch_as_fresh (unsupportedPolicy : UnsupportedPolicy) (markers : Markers)
    (channelPolicy : ChannelPolicy) (peer otherPeer : String) (history : List Inbound)
    (inbound : Inbound) :
    let fresh : Dispatcher Cleartext := ⟨unsupportedPolicy, markers, Cleartext.fresh⟩
    let reached := fresh.dispatchAll (.fresh channelPolicy peer) history
    let result := (reached.1.dispatch reached.2 inbound).result
    result = (fresh.dispatch (.fresh channelPolicy otherPeer) inbound).result ∧
    ∀ message, inbound.packet.kind? = some .channelOpen →
      Message.ChannelOpen.parse inbound.packet.payload = .ok message →
      let confirmation := Message.ChannelOpenConfirmation.packet
        ⟨message.sender, channelPolicy.localId message.sender,
          Message.ChannelOpenConfirmation.ownLimit, Message.ChannelOpenConfirmation.ownLimit⟩
      result = .ok (.reply confirmation) ∧ confirmation.number = 91 ∧
      Message.ChannelOpenConfirmation.parse confirmation.payload
        = .ok ⟨message.sender, channelPolicy.localId message.sender, 32768, 32768⟩ := by
  intro fresh reached result
  have hfresh (label : String) :
      Settled unsupportedPolicy markers channelPolicy fresh (.fresh channelPolicy label) :=
    .fresh unsupportedPolicy markers channelPolicy Cleartext.fresh label
  have hreached : result = verdict channelPolicy unsupportedPolicy markers inbound :=
    ((hfresh peer).dispatchAll history).result inbound
  constructor
  · rw [hreached, (hfresh otherPeer).result]
  · intro message hkind hparse confirmation
    refine ⟨?_, rfl, Message.ChannelOpenConfirmation.roundTrips.of_message _ (by simp) (by simp)⟩
    rw [hreached, verdict]
    simp only [hkind, hparse]
    rfl

/-- Channel 7 is opened, opened once more while a message cannot be read, and closed; then it is
opened again as if nothing had happened. -/
theorem dispatch_as_fresh_reopened :
    let opening : Inbound :=
      ⟨4, ⟨90, [0, 0, 0, 7, 115, 101, 115, 115, 105, 111, 110, 0, 0, 0, 7], 4⟩⟩
    let history : List Inbound := [opening, ⟨1, ⟨94, [0, 0], 4⟩⟩, opening, ⟨3, ⟨97, [0, 0, 0, 7], 4⟩⟩]
    let message : Message.ChannelOpen := ⟨"session", 7, none, none⟩
    let fresh : Dispatcher Cleartext := ⟨.ignore, .default, Cleartext.fresh⟩
    let reached := fresh.dispatchAll (.fresh .samePeer "a") history
    let result := (reached.1.dispatch reached.2 opening).result
    opening.packet.kind? = some .channelOpen ∧
    Message.ChannelOpen.parse opening.packet.payload = .ok message ∧
    result = (fresh.dispatch (.fresh .samePeer "b") opening).result ∧
    result = .ok (.reply (Message.ChannelOpenConfirmation.packet ⟨7, 7, 32768, 32768⟩)) ∧
    Message.ChannelOpenConfirmation.parse
      (Message.ChannelOpenConfirmation.packet ⟨7, 7, 32768, 32768⟩).payload
        = .ok ⟨7, 7, 32768, 32768⟩ := by
  intro opening history message fresh reached result
  have hkind : opening.packet.kind? = some .channelOpen := by decide
  have hparse : Message.ChannelOpen.parse opening.packet.payload = .ok message := by decide
  have h := dispatch_as_fresh .ignore .default .samePeer "a" "b" history opening
  obtain ⟨hresult, -, hread⟩ := h.2 message hkind hparse
  exact ⟨hkind, hparse, h.1, hresult, hread⟩

end Dispatcher
end MockSsh
