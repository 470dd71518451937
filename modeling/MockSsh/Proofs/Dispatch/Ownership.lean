import MockSsh.Proofs.Dispatch.Step

/-!
What each packet owns of a connection. A packet fails exactly where its payload has to be read and
cannot be, or where the key exchange refuses it (`Dispatcher.failure?`), and a packet that fails has no
effect. One that does not may add one entry to the channel table (`ChannelTable.Gains`) or take one away
(`ChannelTable.Loses`), or log the peer in; which of these it may do is told by its number and fields
(`Dispatcher.dispatch_owns`).
-/
namespace MockSsh

/-! ## Failing -/

/-- What a computation failed with. -/
def errorOf? {ε α : Type} : Except ε α → Option ε
  | .error error => some error
  | .ok _ => none

/-- Why the payload cannot be read, where it has to be. Every other message is answered whatever its
payload holds. -/
def Packet.flaw? (packet : Packet) : Option PayloadFault :=
  match packet.kind? with
  | some .channelOpen => errorOf? (Message.ChannelOpen.parse packet.payload)
  | some .channelRequest => errorOf? (Message.ChannelRequest.parse packet.payload)
  | some .channelData => errorOf? (Message.ChannelData.parse packet.payload)
  | some .channelClose => errorOf? (Message.ChannelClose.parse packet.payload)
  | some .disconnect => errorOf? (Message.Disconnect.parse packet.payload)
  | _ => none

theorem Packet.number_of_flaw? {packet : Packet} {cause : PayloadFault}
    (h : packet.flaw? = some cause) : packet.number ∈ [1, 90, 94, 97, 98] := by
  unfold flaw? at h
  split at h
  case h_6 => cases h
  all_goals
    next hkind =>
      rw [← Message.Kind.number_of_ofNumber? hkind]
      decide

namespace Dispatcher

variable {κ : Type} [KeyExchange κ]

/-- The fault that a packet meets: of the key exchange, where that has to answer, or of a payload that
cannot be read. Nothing of the connection takes part in it. -/
def failure? (dispatcher : Dispatcher κ) (packet : Packet) : Option Fault :=
  match packet.kind? with
  | some .keyExchangeInit =>
    errorOf? (KeyExchange.answerInit dispatcher.exchange packet.payload).1
  | some .newKeys => errorOf? (KeyExchange.answerNewKeys dispatcher.exchange).1
  | _ => packet.flaw?.map .payload

theorem errorOf?_answerTo {μ : Type} (parsed : Except PayloadFault μ) (answer : μ → Answer) :
    errorOf? (answerTo parsed answer) = (errorOf? parsed).map .payload := by
  cases parsed <;> rfl

theorem errorOf?_channelOpen (connection : Connection) (payload : Bytes) :
    errorOf? (connection.channelOpen payload).result
      = (errorOf? (Message.ChannelOpen.parse payload)).map .payload := by
  unfold Connection.channelOpen
  split <;> next hparse => rw [hparse]; rfl

theorem errorOf?_keyExchangeInit (dispatcher : Dispatcher κ) (connection : Connection)
    (payload : Bytes) :
    errorOf? (dispatcher.keyExchangeInit connection payload).result
      = errorOf? (KeyExchange.answerInit dispatcher.exchange payload).1 := by
  unfold keyExchangeInit
  simp only
  split <;> next hanswer => rw [hanswer]; rfl

theorem errorOf?_newKeys (dispatcher : Dispatcher κ) (connection : Connection) :
    errorOf? (dispatcher.newKeys connection).result
      = errorOf? (KeyExchange.answerNewKeys dispatcher.exchange).1 := by
  unfold newKeys
  simp only
  split <;> next hanswer => rw [hanswer]; rfl

/-- **A packet fails** by the dispatcher and the packet alone, whatever the connection is. -/
theorem errorOf?_dispatch (dispatcher : Dispatcher κ) (connection : Connection)
    (inbound : Inbound) :
    errorOf? (dispatcher.dispatch connection inbound).result
      = dispatcher.failure? inbound.packet := by
  have hunsupported :
      errorOf? (connection.unsupported dispatcher.unsupportedPolicy inbound).result = none := by
    rw [result_unsupported]
    rfl
  unfold dispatch answer failure? Packet.flaw?
  cases inbound.packet.kind? with
  | none => exact hunsupported
  | some kind =>
    cases kind with
    | keyExchangeInit => exact dispatcher.errorOf?_keyExchangeInit connection _
    | newKeys => exact dispatcher.errorOf?_newKeys connection
    | channelOpen => exact errorOf?_channelOpen connection _
    | channelRequest =>
      simp only
      rw [result_channelRequest, errorOf?_answerTo]
    | channelData =>
      simp only
      rw [result_channelData, errorOf?_answerTo]
    | channelClose =>
      simp only
      rw [result_channelClose, errorOf?_answerTo]
    | disconnect =>
      simp only
      rw [result_disconnect, errorOf?_answerTo]
    | authRequest =>
      simp only
      rw [result_authRequest]
      rfl
    | serviceRequest | ignore | unimplemented | debug | channelWindowAdjust | channelEnd => rfl
    | serviceAccept | authFailure | authSuccess | authPublicKeyOk | channelOpenConfirmation
    | channelSuccess => exact hunsupported

theorem result_error_iff (dispatcher : Dispatcher κ) (connection : Connection) (inbound : Inbound)
    (fault : Fault) :
    (dispatcher.dispatch connection inbound).result = .error fault ↔
      dispatcher.failure? inbound.packet = some fault := by
  rw [← dispatcher.errorOf?_dispatch connection inbound]
  cases (dispatcher.dispatch connection inbound).result with
  | ok answer => simp [errorOf?]
  | error other => simp [errorOf?]

/-- The exchange without keys refuses nothing. -/
theorem failure?_of_cleartext (dispatcher : Dispatcher Cleartext) (packet : Packet) :
    dispatcher.failure? packet = packet.flaw?.map .payload := by
  unfold failure? Packet.flaw?
  cases packet.kind? with
  | none => rfl
  | some kind => cases kind <;> rfl

end Dispatcher

/-! ## Nothing is done where a packet fails -/

theorem toOption_of_errorOf? {ε α : Type} {computed : Except ε α} {error : ε}
    (h : errorOf? computed = some error) : computed.toOption = none := by
  cases computed with
  | ok value => cases h
  | error other => rfl

section Failure

variable {κ : Type} [KeyExchange κ] {dispatcher : Dispatcher κ} {packet : Packet} {fault : Fault}
  (h : dispatcher.failure? packet = some fault)
include h

/-- The payload is read to its end before a channel is touched. -/
theorem Packet.channelEffect?_of_failure? : packet.channelEffect? = none := by
  unfold Dispatcher.failure? Packet.flaw? at h
  unfold Packet.channelEffect?
  cases hkind : packet.kind? with
  | none => rfl
  | some kind =>
    rw [hkind] at h
    cases kind with
    | channelOpen | channelRequest | channelClose =>
      obtain ⟨cause, hcause, -⟩ := Option.map_eq_some_iff.mp h
      simp only [toOption_of_errorOf? hcause]
      rfl
    | _ => rfl

/-- A login request does not fail. -/
theorem Markers.logsIn_of_failure? (markers : Markers) : markers.logsIn packet = false := by
  unfold Dispatcher.failure? Packet.flaw? at h
  unfold Markers.logsIn
  cases hkind : packet.kind? with
  | none => rfl
  | some kind =>
    rw [hkind] at h
    cases kind with
    | authRequest => cases h
    | _ => rfl

end Failure

/-! ## One entry more, one entry less -/

namespace ChannelTable

/-- One entry more: `peerId` had none, and every entry that was there is there as it was. -/
structure Gains (table after : ChannelTable) (peerId : UInt32) : Prop where
  absent : table.lookupPeer peerId = none
  added : ∃ channel, after.entries = (peerId, channel) :: table.entries

/-- One entry less: what was filed under `peerId` is not there any more, and every other entry is there
as it was. -/
structure Loses (table after : ChannelTable) (peerId : UInt32) : Prop where
  present : table.lookupPeer peerId ≠ none
  gone : after.lookupPeer peerId = none
  others : ∀ other, other ≠ peerId → after.lookupPeer other = table.lookupPeer other
  kept : after.entries = table.entries.filter (·.1 != peerId)
  /-- Where no number is filed twice, that is a single entry. -/
  size : (table.entries.map Prod.fst).Nodup → after.size + 1 = table.size

theorem remove_of_lookupPeer_none {table : ChannelTable} {peerId : UInt32}
    (h : table.lookupPeer peerId = none) : table.remove peerId = table := by
  have hall : table.entries.filter (·.1 != peerId) = table.entries := by
    rw [List.filter_eq_self]
    intro entry hentry
    have hne : entry.1 ≠ peerId := by
      rintro rfl
      exact lookupPeer_eq_none_iff.mp h (List.mem_map_of_mem hentry)
    simpa using hne
  rw [remove, hall]

theorem size_remove {table : ChannelTable} {peerId : UInt32}
    (hdistinct : (table.entries.map Prod.fst).Nodup) (hpresent : table.lookupPeer peerId ≠ none) :
    (table.remove peerId).size + 1 = table.size := by
  have hmem : peerId ∈ table.entries.map Prod.fst := by
    by_contra habsent
    exact hpresent (lookupPeer_eq_none_iff.mpr habsent)
  have hnumbers : (table.remove peerId).entries.map Prod.fst
      = (table.entries.map Prod.fst).erase peerId := by
    rw [hdistinct.erase_eq_filter, List.filter_map]
    rfl
  have hlength := congrArg List.length hnumbers
  rw [List.length_map, List.length_erase_of_mem hmem, List.length_map] at hlength
  have hpos := List.length_pos_of_mem hmem
  rw [List.length_map] at hpos
  unfold size
  omega

theorem gains_openChannel {table : ChannelTable} {peerId : UInt32}
    (h : (table.openChannel peerId).table ≠ table) :
    table.Gains (table.openChannel peerId).table peerId := by
  cases hfound : table.lookupPeer peerId with
  | some channel => exact absurd (openChannel_of_mem hfound) h
  | none =>
    rw [openChannel_of_not_mem hfound]
    exact ⟨hfound, _, rfl⟩

/-- Of the channels that share the server's number, the one that it means is taken away. -/
theorem loses_close {table : ChannelTable} {localId : UInt32}
    (h : (table.close localId).2 ≠ table) :
    ∃ channel, table.lookup localId = some channel ∧
      table.Loses (table.close localId).2 channel.peerId := by
  cases hfound : table.lookup localId with
  | none => exact absurd (congrArg Prod.snd (close_of_lookup_none hfound)) h
  | some channel =>
    have hclose : (table.close localId).2 = table.remove channel.peerId := by
      rw [close, hfound]
    rw [hclose] at h ⊢
    have hpresent : table.lookupPeer channel.peerId ≠ none := by
      intro habsent
      exact h (remove_of_lookupPeer_none habsent)
    refine ⟨channel, rfl, hpresent, ?_, ?_, rfl, ?_⟩
    · rw [lookupPeer_remove, if_pos rfl]
    · intro other hother
      rw [lookupPeer_remove, if_neg hother]
    · intro hdistinct
      exact size_remove hdistinct hpresent

end ChannelTable

/-! ## What a packet owns -/

namespace Packet

/-- A well-formed request to open the channel that the peer numbers `peerId`. -/
def Opens (packet : Packet) (peerId : UInt32) : Prop :=
  packet.kind? = some .channelOpen ∧
    ∃ message, Message.ChannelOpen.parse packet.payload = .ok message ∧ message.sender = peerId

/-- A well-formed close of the channel that the server numbers `localId`, or a well-formed request to run
a command on it. -/
def Closes (packet : Packet) (localId : UInt32) : Prop :=
  (packet.kind? = some .channelClose ∧
    ∃ message, Message.ChannelClose.parse packet.payload = .ok message ∧
      message.recipient = localId) ∨
  (packet.kind? = some .channelRequest ∧
    ∃ message, Message.ChannelRequest.parse packet.payload = .ok message ∧
      message.isExec = true ∧ message.recipient = localId)

theorem eq_ok_of_toOption {ε α : Type} {computed : Except ε α} {value : α}
    (h : computed.toOption = some value) : computed = .ok value := by
  cases computed with
  | ok other => cases h; rfl
  | error error => cases h

theorem opens_of_channelEffect? {packet : Packet} {peerId : UInt32}
    (h : packet.channelEffect? = some (.opens peerId)) : packet.Opens peerId := by
  unfold channelEffect? at h
  split at h
  · next hkind =>
    obtain ⟨message, hparse, hsender⟩ := Option.map_eq_some_iff.mp h
    cases hsender
    exact ⟨hkind, message, eq_ok_of_toOption hparse, rfl⟩
  · obtain ⟨message, -, hother⟩ := Option.map_eq_some_iff.mp h
    cases hother
  · obtain ⟨message, -, hother⟩ := Option.map_eq_some_iff.mp h
    cases hother
  · cases h

theorem closes_of_channelEffect? {packet : Packet} {localId : UInt32}
    (h : packet.channelEffect? = some (.closes localId)) : packet.Closes localId := by
  unfold channelEffect? at h
  split at h
  · obtain ⟨message, -, hother⟩ := Option.map_eq_some_iff.mp h
    cases hother
  · next hkind =>
    obtain ⟨message, hparse, hrecipient⟩ := Option.map_eq_some_iff.mp h
    cases hrecipient
    exact .inl ⟨hkind, message, eq_ok_of_toOption hparse, rfl⟩
  · next hkind =>
    obtain ⟨message, hfiltered, hrecipient⟩ := Option.map_eq_some_iff.mp h
    obtain ⟨hparse, hexec⟩ := Option.filter_eq_some_iff.mp hfiltered
    cases hrecipient
    exact .inr ⟨hkind, message, eq_ok_of_toOption hparse, hexec, rfl⟩
  · cases h

end Packet

theorem Markers.authRequest_of_logsIn {markers : Markers} {packet : Packet}
    (h : markers.logsIn packet = true) :
    packet.kind? = some .authRequest ∧ markers.classify packet.payload ≠ .publicKeyProbe := by
  unfold Markers.logsIn at h
  split at h
  · next hkind =>
    refine ⟨hkind, ?_⟩
    intro hprobe
    rw [hprobe] at h
    cases h
  · cases h

/-- What an effect makes of a table, if it makes another one of it. -/
theorem ChannelTable.gains_or_loses_after {table : ChannelTable} {packet : Packet}
    (h : table.after packet.channelEffect? ≠ table) :
    (∃ peerId, packet.Opens peerId ∧
      table.Gains (table.after packet.channelEffect?) peerId) ∨
    ∃ localId channel, packet.Closes localId ∧ table.lookup localId = some channel ∧
      table.Loses (table.after packet.channelEffect?) channel.peerId := by
  cases heffect : packet.channelEffect? with
  | none =>
    rw [heffect] at h
    exact absurd rfl h
  | some effect =>
    rw [heffect] at h
    cases effect with
    | opens peerId =>
      exact .inl ⟨peerId, Packet.opens_of_channelEffect? heffect, gains_openChannel h⟩
    | closes localId =>
      obtain ⟨channel, hmeant, hloses⟩ := loses_close h
      exact .inr ⟨localId, channel, Packet.closes_of_channelEffect? heffect, hmeant, hloses⟩

namespace Dispatcher

variable {κ : Type} [KeyExchange κ]

section Dispatch

variable {dispatcher : Dispatcher κ} {connection : Connection} {inbound : Inbound}

theorem connection_of_error {fault : Fault}
    (h : (dispatcher.dispatch connection inbound).result = .error fault) :
    (dispatcher.dispatch connection inbound).connection = connection := by
  have hfailure := (dispatcher.result_error_iff connection inbound fault).mp h
  rw [connection_dispatch, Packet.channelEffect?_of_failure? hfailure,
    Markers.logsIn_of_failure? hfailure, Bool.or_false]
  rfl

theorem gains_or_loses_of_ne
    (h : (dispatcher.dispatch connection inbound).connection.channels ≠ connection.channels) :
    (∃ peerId, inbound.packet.Opens peerId ∧
      connection.channels.Gains (dispatcher.dispatch connection inbound).connection.channels
        peerId) ∨
    ∃ localId channel, inbound.packet.Closes localId ∧
      connection.channels.lookup localId = some channel ∧
      connection.channels.Loses (dispatcher.dispatch connection inbound).connection.channels
        channel.peerId := by
  rw [connection_dispatch] at h ⊢
  exact ChannelTable.gains_or_loses_after h

theorem login_of_ne
    (h : (dispatcher.dispatch connection inbound).connection.authenticated
      ≠ connection.authenticated) :
    connection.authenticated = false ∧
      (dispatcher.dispatch connection inbound).connection.authenticated = true ∧
      inbound.packet.kind? = some .authRequest ∧
      dispatcher.markers.classify inbound.packet.payload ≠ .publicKeyProbe := by
  rw [connection_dispatch] at h ⊢
  cases hbefore : connection.authenticated with
  | true =>
    rw [hbefore] at h
    exact absurd rfl h
  | false =>
    rw [hbefore] at h
    have hlogsIn : dispatcher.markers.logsIn inbound.packet = true := by simpa using h
    refine ⟨rfl, ?_, Markers.authRequest_of_logsIn hlogsIn⟩
    rw [hlogsIn]
    rfl

/-- Without keys only an unreadable payload is a fault. -/
theorem flaw_of_error {plain : Dispatcher Cleartext} {fault : Fault}
    (h : (plain.dispatch connection inbound).result = .error fault) :
    (∃ cause, fault = .payload cause) ∧ inbound.packet.number ∈ [1, 90, 94, 97, 98] := by
  have hfailure := (plain.result_error_iff connection inbound fault).mp h
  rw [plain.failure?_of_cleartext] at hfailure
  obtain ⟨cause, hcause, hfault⟩ := Option.map_eq_some_iff.mp hfailure
  exact ⟨⟨cause, hfault.symm⟩, Packet.number_of_flaw? hcause⟩

end Dispatch

/-- **A packet touches only what it owns.** Whatever the key exchange is and whatever the connection
holds: a packet that fails leaves the connection as it was. A packet that is answered changes the channel
table only if it is a well-formed request to open a channel, and then by one entry more under its number,
or a well-formed close or request to run a command, and then by one entry less, the one it means; it
changes the flag of the login only from no to yes, and only if it is a login request that is not a probe.
No packet changes the peer's label, the policy of the channels or the settings. Without keys a packet
fails only because its payload cannot be read, and only the messages 1, 90, 94, 97 and 98 do. -/
theorem dispatch_owns (dispatcher : Dispatcher κ) (connection : Connection) (inbound : Inbound) :
    let outcome := dispatcher.dispatch connection inbound
    let packet := inbound.packet
    let before := connection.channels
    let after := outcome.connection.channels
    (∀ fault, outcome.result = .error fault → outcome.connection = connection) ∧
    (∀ answer, outcome.result = .ok answer →
      (after ≠ before →
        (∃ peerId, packet.Opens peerId ∧ before.Gains after peerId) ∨
        ∃ localId channel, packet.Closes localId ∧ before.lookup localId = some channel ∧
          before.Loses after channel.peerId) ∧
      (outcome.connection.authenticated ≠ connection.authenticated →
        connection.authenticated = false ∧ outcome.connection.authenticated = true ∧
          packet.kind? = some .authRequest ∧
          dispatcher.markers.classify packet.payload ≠ .publicKeyProbe)) ∧
    (outcome.connection.peer = connection.peer ∧ after.policy = before.policy ∧
      outcome.dispatcher.unsupportedPolicy = dispatcher.unsupportedPolicy ∧
      outcome.dispatcher.markers = dispatcher.markers) ∧
    ∀ (plain : Dispatcher Cleartext) (fault : Fault),
      (plain.dispatch connection inbound).result = .error fault →
        (∃ cause, fault = .payload cause) ∧ packet.number ∈ [1, 90, 94, 97, 98] := by
  intro outcome packet before after
  have hstep := dispatcher.step_dispatch connection inbound
  refine ⟨fun fault => connection_of_error, fun answer _ => ⟨gains_or_loses_of_ne, login_of_ne⟩,
    ?_, fun plain fault => flaw_of_error⟩
  exact ⟨hstep.peer, hstep.channels.policy_eq, dispatcher.settings_dispatch connection inbound⟩

/-- Two channels share the number 0. A request to open another one is cut short and changes nothing; a
command takes one of the two away; a login request logs in. -/
theorem dispatch_owns_shared :
    let dispatcher : Dispatcher Cleartext := ⟨.ignore, .default, Cleartext.fresh⟩
    let table := ((ChannelTable.empty .zero).openChannel 7).table
    let connection : Connection := ⟨(table.openChannel 8).table, false, "peer"⟩
    let cut : Inbound := ⟨0, ⟨90, [0, 0, 0, 1, 120, 0, 0], 4⟩⟩
    let command : Inbound := ⟨1, ⟨98, [0, 0, 0, 0, 0, 0, 0, 4, 101, 120, 101, 99, 0], 4⟩⟩
    let login : Inbound := ⟨2, ⟨50, [110, 111, 110, 101], 4⟩⟩
    let failed := dispatcher.dispatch connection cut
    let closed := dispatcher.dispatch connection command
    let entered := dispatcher.dispatch connection login
    (failed.result = .error (.payload (.wordCut 5 7)) ∧ failed.connection = connection ∧
      cut.packet.number ∈ [1, 90, 94, 97, 98]) ∧
    (closed.connection.channels ≠ connection.channels ∧
      ∃ localId channel, command.packet.Closes localId ∧
        connection.channels.lookup localId = some channel ∧
        connection.channels.Loses closed.connection.channels channel.peerId) ∧
    (entered.connection.authenticated ≠ connection.authenticated ∧
      login.packet.kind? = some .authRequest) := by
  intro dispatcher table connection cut command login failed closed entered
  have hfailed : failed.result = .error (.payload (.wordCut 5 7)) := by decide +kernel
  have hclosed : ∃ answer, closed.result = .ok answer := ⟨_, rfl⟩
  have hentered : entered.result = .ok (.reply Message.authSuccess) := by decide +kernel
  have hchanged : closed.connection.channels ≠ connection.channels := by decide +kernel
  have hflag : entered.connection.authenticated ≠ connection.authenticated := by decide +kernel
  obtain ⟨hunchanged, -, -, hplain⟩ := dispatch_owns dispatcher connection cut
  obtain ⟨-, hcommand, -, -⟩ := dispatch_owns dispatcher connection command
  obtain ⟨-, hlogin, -, -⟩ := dispatch_owns dispatcher connection login
  obtain ⟨closing, hclosing⟩ := hclosed
  refine ⟨⟨hfailed, hunchanged _ hfailed, (hplain dispatcher _ hfailed).2⟩, ⟨hchanged, ?_⟩, hflag,
    ((hlogin _ hentered).2 hflag).2.2.1⟩
  rcases (hcommand _ hclosing).1 hchanged with ⟨peerId, hopens, -⟩ | hloses
  · -- a request to run a command opens nothing
    exact absurd hopens.1 (by decide)
  · exact hloses

end Dispatcher
end MockSsh
