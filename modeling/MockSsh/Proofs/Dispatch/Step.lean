import MockSsh.Dispatch
import MockSsh.Proofs.Channel.Table
import MockSsh.Proofs.Message.Grammar

/-!
What one packet does. To the connection: what happens to the channels (`Packet.channelEffect?`) and
whether the peer is logged in (`Markers.logsIn`) can be told from the packet, and nothing else happens
(`Dispatcher.connection_dispatch`). To the peer: `verdict` is the answer as a function of the packet and
the settings alone, and a dispatcher whose table is well filed gives that answer, whatever else the table
holds.
-/
namespace MockSsh

/-! ## The connection -/

/-- What a packet may do to a channel table. -/
inductive ChannelTable.Step (table : ChannelTable) : ChannelTable → Prop
  | stay : Step table table
  | openChannel (peerId : UInt32) : Step table (table.openChannel peerId).table
  | close (localId : UInt32) : Step table (table.close localId).2

theorem ChannelTable.Step.policy_eq {table after : ChannelTable} (h : table.Step after) :
    after.policy = table.policy := by
  cases h with
  | stay => rfl
  | openChannel peerId => exact policy_openChannel table peerId
  | close localId => exact policy_close table localId

theorem ChannelTable.Step.wellFiled {table after : ChannelTable} (h : table.Step after)
    (hfiled : table.WellFiled) : after.WellFiled := by
  cases h with
  | stay => exact hfiled
  | openChannel peerId => exact hfiled.openChannel peerId
  | close localId => exact hfiled.close localId

/-- What a packet may do to a connection. -/
structure Connection.Step (connection after : Connection) : Prop where
  channels : connection.channels.Step after.channels
  peer : after.peer = connection.peer

/-- Opening a channel by the peer's number for it, or closing one by the server's. -/
inductive ChannelEffect
  | opens (peerId : UInt32)
  | closes (localId : UInt32)
deriving DecidableEq

/-- The effect of a packet on the channels, whatever they are: a well-formed request to open a channel
opens it, and a well-formed close, or request to run a command, closes it. -/
def Packet.channelEffect? (packet : Packet) : Option ChannelEffect :=
  match packet.kind? with
  | some .channelOpen =>
    (Message.ChannelOpen.parse packet.payload).toOption.map (.opens ·.sender)
  | some .channelClose =>
    (Message.ChannelClose.parse packet.payload).toOption.map (.closes ·.recipient)
  | some .channelRequest =>
    ((Message.ChannelRequest.parse packet.payload).toOption.filter (·.isExec)).map
      (.closes ·.recipient)
  | _ => none

/-- The table after an effect. -/
def ChannelTable.after (table : ChannelTable) : Option ChannelEffect → ChannelTable
  | none => table
  | some (.opens peerId) => (table.openChannel peerId).table
  | some (.closes localId) => (table.close localId).2

theorem ChannelTable.step_after (table : ChannelTable) (effect : Option ChannelEffect) :
    table.Step (table.after effect) := by
  rcases effect with _ | opened | closed
  · exact .stay
  · exact .openChannel opened
  · exact .close closed

/-- Whether the packet is a login request that succeeds. -/
def Markers.logsIn (markers : Markers) (packet : Packet) : Bool :=
  match packet.kind? with
  | some .authRequest => (markers.classify packet.payload).authenticates
  | _ => false

namespace Connection

variable (connection : Connection) (payload : Bytes)

theorem connection_authRequest (markers : Markers) :
    (connection.authRequest markers payload).connection =
      { connection with
        authenticated := connection.authenticated || (markers.classify payload).authenticates } := by
  unfold authRequest
  simp only
  split
  · next hlogin => rw [hlogin, Bool.or_true]
  · next hprobe => simp only [Handled.unchanged, hprobe, Bool.or_false]

theorem connection_channelOpen :
    (connection.channelOpen payload).connection =
      { connection with
        channels := connection.channels.after
          ((Message.ChannelOpen.parse payload).toOption.map (.opens ·.sender)) } := by
  unfold channelOpen
  split <;> next hparse => rw [hparse]; rfl

theorem connection_channelRequest :
    (connection.channelRequest payload).connection =
      { connection with
        channels := connection.channels.after
          (((Message.ChannelRequest.parse payload).toOption.filter (·.isExec)).map
            (.closes ·.recipient)) } := by
  unfold channelRequest
  split
  · next fault hparse => rw [hparse]; rfl
  · next message hparse =>
    simp only [hparse, Except.toOption]
    split
    · next hexec => rw [Option.filter_some_pos hexec]; rfl
    · next hother => rw [Option.filter_some_neg (by simpa using hother)]; rfl

theorem connection_channelData :
    (connection.channelData payload).connection = connection := by
  unfold channelData
  split <;> rfl

theorem connection_channelClose :
    (connection.channelClose payload).connection =
      { connection with
        channels := connection.channels.after
          ((Message.ChannelClose.parse payload).toOption.map (.closes ·.recipient)) } := by
  unfold channelClose
  split <;> next hparse => rw [hparse]; rfl

theorem connection_disconnect :
    (connection.disconnect payload).connection = connection := by
  unfold disconnect
  split <;> rfl

theorem connection_unsupported (policy : UnsupportedPolicy) (inbound : Inbound) :
    (connection.unsupported policy inbound).connection = connection := by
  cases policy <;> rfl

end Connection

namespace Dispatcher

variable {κ : Type} [KeyExchange κ]

theorem connection_keyExchangeInit (dispatcher : Dispatcher κ) (connection : Connection)
    (payload : Bytes) :
    (dispatcher.keyExchangeInit connection payload).connection = connection := by
  unfold keyExchangeInit
  simp only
  split <;> rfl

theorem connection_newKeys (dispatcher : Dispatcher κ) (connection : Connection) :
    (dispatcher.newKeys connection).connection = connection := by
  unfold newKeys
  simp only
  split <;> rfl

/-- **One packet** has its effect on the channels, may log the peer in, and does nothing else. -/
theorem connection_dispatch (dispatcher : Dispatcher κ) (connection : Connection)
    (inbound : Inbound) :
    (dispatcher.dispatch connection inbound).connection =
      { connection with
        channels := connection.channels.after inbound.packet.channelEffect?
        authenticated := connection.authenticated || dispatcher.markers.logsIn inbound.packet } := by
  -- the login requests apart, the flag is only written as `connection.authenticated || false`
  have outside {after : Connection} {channels : ChannelTable}
      (h : after = { connection with channels }) :
      after = { connection with channels, authenticated := connection.authenticated || false } := by
    rw [h, Bool.or_false]
  unfold dispatch answer Packet.channelEffect? Markers.logsIn
  cases inbound.packet.kind? with
  | none => exact outside (connection.connection_unsupported _ inbound)
  | some kind =>
    cases kind with
    | authRequest => exact connection.connection_authRequest _ _
    | channelOpen => exact outside (connection.connection_channelOpen _)
    | channelRequest => exact outside (connection.connection_channelRequest _)
    | channelData => exact outside (connection.connection_channelData _)
    | channelClose => exact outside (connection.connection_channelClose _)
    | disconnect => exact outside (connection.connection_disconnect _)
    | keyExchangeInit => exact outside (dispatcher.connection_keyExchangeInit connection _)
    | newKeys => exact outside (dispatcher.connection_newKeys connection)
    | serviceRequest | ignore | unimplemented | debug | channelWindowAdjust | channelEnd =>
      exact outside rfl
    | serviceAccept | authFailure | authSuccess | authPublicKeyOk | channelOpenConfirmation
    | channelSuccess => exact outside (connection.connection_unsupported _ inbound)

theorem step_dispatch (dispatcher : Dispatcher κ) (connection : Connection) (inbound : Inbound) :
    connection.Step (dispatcher.dispatch connection inbound).connection := by
  rw [connection_dispatch]
  exact ⟨connection.channels.step_after _, rfl⟩

/-- The settings of a dispatcher are the same before and after every packet. -/
theorem settings_dispatch (dispatcher : Dispatcher κ) (connection : Connection)
    (inbound : Inbound) :
    (dispatcher.dispatch connection inbound).dispatcher.unsupportedPolicy
        = dispatcher.unsupportedPolicy ∧
      (dispatcher.dispatch connection inbound).dispatcher.markers = dispatcher.markers := by
  unfold dispatch
  split
  · exact ⟨rfl, rfl⟩
  · exact ⟨rfl, rfl⟩
  · exact ⟨rfl, rfl⟩

end Dispatcher

/-! ## The answer -/

namespace Answer

/-- Every reply is such a packet. -/
def All (P : Packet → Prop) (answer : Answer) : Prop :=
  ∀ reply ∈ answer.replies, P reply

variable {P : Packet → Prop}

theorem all_silent : silent.All P :=
  fun _ hreply => absurd hreply List.not_mem_nil

theorem all_reply {packet : Packet} (h : P packet) : (reply packet).All P :=
  List.forall_mem_singleton.mpr h

end Answer

namespace Dispatcher

variable {κ : Type} [KeyExchange κ]

/-- The answer to a payload that must hold a message. -/
def answerTo {μ : Type} (parsed : Except PayloadFault μ) (answer : μ → Answer) :
    Except Fault Answer :=
  (parsed.map answer).mapError .payload

theorem answerTo_eq_ok_iff {μ : Type} {parsed : Except PayloadFault μ} {answer : μ → Answer}
    {given : Answer} :
    answerTo parsed answer = .ok given ↔ ∃ message, parsed = .ok message ∧ answer message = given := by
  cases parsed with
  | error fault => simp [answerTo, Except.map, Except.mapError]
  | ok message => simp [answerTo, Except.map, Except.mapError]

/-- The replies to a request on a channel. -/
def requestAnswer (message : Message.ChannelRequest) : Answer :=
  let wanted :=
    if message.wantReply then [Message.ChannelSuccess.packet ⟨message.recipient⟩] else []
  let ended :=
    if message.isExec then
      [(Message.ChannelRequest.exitStatus message.recipient 0).packet,
        Message.ChannelClose.packet ⟨message.recipient⟩]
    else []
  .ofReplies (wanted ++ ended)

/-- The confirmation that the peer's channel `sender` is open. -/
def confirmation (policy : ChannelPolicy) (sender : UInt32) : Packet :=
  Message.ChannelOpenConfirmation.packet
    ⟨sender, policy.localId sender, Message.ChannelOpenConfirmation.ownLimit,
      Message.ChannelOpenConfirmation.ownLimit⟩

/-- The answer to a message without an answer of its own. -/
def unsupportedAnswer (policy : UnsupportedPolicy) (inbound : Inbound) : Answer :=
  match policy with
  | .ignore => .silent
  | .unimplemented => .reply (Message.Unimplemented.packet ⟨inbound.sequence⟩)
  | .disconnect =>
    ⟨[Message.Disconnect.packet ⟨Message.Disconnect.protocolError,
      "unsupported message " ++ Message.describe inbound.packet.number, ""⟩], .policyDisconnect⟩

/-- The answer to a packet without a key exchange: a function of the packet and the settings. -/
def verdict (channelPolicy : ChannelPolicy) (unsupportedPolicy : UnsupportedPolicy)
    (markers : Markers) (inbound : Inbound) : Except Fault Answer :=
  let payload := inbound.packet.payload
  match inbound.packet.kind? with
  | some .keyExchangeInit =>
    .ok (.reply (.ofKind .keyExchangeInit (List.replicate Cleartext.initLength 0)))
  | some .newKeys => .ok (.reply (.ofKind .newKeys []))
  | some .serviceRequest => .ok (.reply Message.ServiceAccept.login.packet)
  | some .authRequest =>
    .ok (.reply (if (markers.classify payload).authenticates then Message.authSuccess
      else Message.PublicKeyOk.own.packet))
  | some .channelOpen =>
    answerTo (Message.ChannelOpen.parse payload) fun message =>
      .reply (confirmation channelPolicy message.sender)
  | some .channelRequest => answerTo (Message.ChannelRequest.parse payload) requestAnswer
  | some .channelData =>
    answerTo (Message.ChannelData.parse payload) fun message => .reply message.packet
  | some .channelClose => answerTo (Message.ChannelClose.parse payload) fun _ => .silent
  | some .disconnect =>
    answerTo (Message.Disconnect.parse payload) fun message => ⟨[], .peerDisconnected message⟩
  | some kind => .ok (if kind.isSilent then .silent else unsupportedAnswer unsupportedPolicy inbound)
  | none => .ok (unsupportedAnswer unsupportedPolicy inbound)

section All

variable {P : Packet → Prop}

theorem all_requestAnswer {message : Message.ChannelRequest}
    (hsuccess : P (Message.ChannelSuccess.packet ⟨message.recipient⟩))
    (hstatus : P (Message.ChannelRequest.exitStatus message.recipient 0).packet)
    (hclose : P (Message.ChannelClose.packet ⟨message.recipient⟩)) :
    (requestAnswer message).All P := by
  unfold requestAnswer
  intro reply hreply
  rcases List.mem_append.mp hreply with hwanted | hended
  · split at hwanted
    · obtain rfl := List.mem_singleton.mp hwanted
      exact hsuccess
    · cases hwanted
  · split at hended
    · obtain rfl | rfl := List.mem_pair.mp hended
      · exact hstatus
      · exact hclose
    · cases hended

theorem all_unsupportedAnswer (policy : UnsupportedPolicy) {inbound : Inbound}
    (hrefusal : P (Message.Unimplemented.packet ⟨inbound.sequence⟩))
    (hfarewell : P (Message.Disconnect.packet ⟨Message.Disconnect.protocolError,
      "unsupported message " ++ Message.describe inbound.packet.number, ""⟩)) :
    (unsupportedAnswer policy inbound).All P := by
  cases policy with
  | ignore => exact Answer.all_silent
  | unimplemented => exact Answer.all_reply hrefusal
  | disconnect => exact Answer.all_reply hfarewell

end All

theorem result_unsupported (connection : Connection) (policy : UnsupportedPolicy)
    (inbound : Inbound) :
    (connection.unsupported policy inbound).result = .ok (unsupportedAnswer policy inbound) := by
  cases policy <;> rfl

theorem result_authRequest (connection : Connection) (markers : Markers) (payload : Bytes) :
    (connection.authRequest markers payload).result
      = .ok (.reply (if (markers.classify payload).authenticates then Message.authSuccess
          else Message.PublicKeyOk.own.packet)) := by
  unfold Connection.authRequest
  simp only
  split <;> rfl

/-- Whether the channel is new or open already, the confirmation carries the policy's number. -/
theorem result_channelOpen {connection : Connection} (h : connection.channels.WellFiled)
    (payload : Bytes) :
    (connection.channelOpen payload).result
      = answerTo (Message.ChannelOpen.parse payload) fun message =>
          .reply (confirmation connection.channels.policy message.sender) := by
  unfold Connection.channelOpen
  split
  · next fault hparse => rw [hparse]; rfl
  · next message hparse =>
    rw [hparse]
    simp only [h.localId_openChannel]
    rfl

theorem result_channelRequest (connection : Connection) (payload : Bytes) :
    (connection.channelRequest payload).result
      = answerTo (Message.ChannelRequest.parse payload) requestAnswer := by
  unfold Connection.channelRequest
  split
  · next fault hparse => rw [hparse]; rfl
  · next message hparse =>
    rw [hparse]
    show _ = Except.ok (requestAnswer message)
    unfold requestAnswer
    simp only
    split
    · rfl
    · rw [List.append_nil]
      rfl

theorem result_channelData (connection : Connection) (payload : Bytes) :
    (connection.channelData payload).result
      = answerTo (Message.ChannelData.parse payload) fun message => .reply message.packet := by
  unfold Connection.channelData
  split <;> next hparse => rw [hparse]; rfl

theorem result_channelClose (connection : Connection) (payload : Bytes) :
    (connection.channelClose payload).result
      = answerTo (Message.ChannelClose.parse payload) fun _ => .silent := by
  unfold Connection.channelClose
  split <;> next hparse => rw [hparse]; rfl

theorem result_disconnect (connection : Connection) (payload : Bytes) :
    (connection.disconnect payload).result
      = answerTo (Message.Disconnect.parse payload) fun message =>
          ⟨[], .peerDisconnected message⟩ := by
  unfold Connection.disconnect
  split <;> next hparse => rw [hparse]; rfl

/-- **The answer** to a packet depends on the packet and the settings alone. -/
theorem result_dispatch (dispatcher : Dispatcher Cleartext) {connection : Connection}
    (h : connection.channels.WellFiled) (inbound : Inbound) :
    (dispatcher.dispatch connection inbound).result
      = verdict connection.channels.policy dispatcher.unsupportedPolicy dispatcher.markers
          inbound := by
  unfold dispatch verdict answer
  cases hkind : inbound.packet.kind? with
  | none => exact result_unsupported _ _ _
  | some kind =>
    cases kind with
    | keyExchangeInit | newKeys | serviceRequest => rfl
    | authRequest => exact result_authRequest _ _ _
    | channelOpen => exact result_channelOpen h _
    | channelRequest => exact result_channelRequest _ _
    | channelData => exact result_channelData _ _
    | channelClose => exact result_channelClose _ _
    | disconnect => exact result_disconnect _ _
    | ignore | unimplemented | debug | channelWindowAdjust | channelEnd => rfl
    | serviceAccept | authFailure | authSuccess | authPublicKeyOk | channelOpenConfirmation
    | channelSuccess => exact result_unsupported _ _ _

/-- Data are sent back whatever the channels and the settings are. -/
theorem result_of_channelData (dispatcher : Dispatcher κ) (connection : Connection)
    (sequence : UInt32) {payload : Bytes} (padding : UInt8) {message : Message.ChannelData}
    (h : Message.ChannelData.Layout payload [] message) :
    (dispatcher.dispatch connection ⟨sequence, ⟨94, payload, padding⟩⟩).result
      = .ok (.ofReplies [message.packet]) := by
  have hparse : Message.ChannelData.parse payload = .ok message :=
    (Message.ChannelData.accepts.ok_iff payload message).mpr ⟨[], h⟩
  show (connection.channelData payload).result = _
  rw [result_channelData, hparse]
  rfl

theorem result_of_silent (dispatcher : Dispatcher κ) (connection : Connection)
    (sequence : UInt32) {number : UInt8} (h : number ∈ [2, 3, 4, 93, 96]) (payload : Bytes)
    (padding : UInt8) :
    (dispatcher.dispatch connection ⟨sequence, ⟨number, payload, padding⟩⟩).result
      = .ok (.ofReplies []) := by
  simp only [List.mem_cons, List.not_mem_nil, or_false] at h
  rcases h with rfl | rfl | rfl | rfl | rfl <;> rfl

end Dispatcher
end MockSsh
