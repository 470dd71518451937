import MockSsh.Proofs.Dispatch.Ownership
import MockSsh.Proofs.Stream.Blame
import MockSsh.Proofs.Text.Plain

/-!
What the events of one packet show of the peer's text. The name of a service and a command are shown
as they were sent, each by one event for its packet; a user's name is plain, and so are the words
for a payload that cannot be read (`Dispatcher.shows_dispatch`).
-/
namespace MockSsh

open Text (Plain)

/-! ## The words of faults -/

/-- The words of the fault are plain, or those in which one of these streams' faults was told. -/
def Fault.SaidBy (faults : List StreamFault) (fault : Fault) : Prop :=
  Plain fault.message ∨ ∃ cause ∈ faults, fault = .stream cause

theorem PayloadFault.plain_message {fault : PayloadFault} (h : fault.isCut = true) :
    Plain fault.message := by
  cases fault with
  | wordCut offset size | flagCut offset size =>
    show Plain (_ ++ _ ++ _ ++ _ ++ _)
    simp only [Text.plain_append, Text.plain_toString, and_true]
    decide
  | stringCut length offset size =>
    show Plain (_ ++ _ ++ _ ++ _ ++ _ ++ _ ++ _)
    simp only [Text.plain_append, Text.plain_toString, and_true]
    decide
  | trailing _ | other _ => cases h

theorem Fault.plain_message {fault : Fault} (h : fault.isOfSize = true) : Plain fault.message := by
  unfold isOfSize at h
  split at h
  case h_1 =>
    show Plain (_ ++ (_ ++ _ ++ _ ++ _ ++ _))
    simp only [Text.plain_append, Text.plain_toString, and_true]
    decide
  case h_2 =>
    show Plain (_ ++ (_ ++ _ ++ _ ++ _))
    simp only [Text.plain_append, Text.plain_toString, and_true]
    decide
  case h_3 =>
    show Plain (_ ++ (_ ++ _ ++ _))
    simp only [Text.plain_append, Text.plain_toString, and_true]
    decide
  case h_4 | h_6 =>
    show Plain (_ ++ _ ++ _ ++ _ ++ _)
    simp only [Text.plain_append, Text.plain_toString, and_true]
    decide
  case h_5 =>
    show Plain (_ ++ _ ++ _)
    simp only [Text.plain_append, Text.plain_toString, and_true]
    decide
  case h_7 =>
    show Plain (_ ++ _)
    exact Text.plain_append.mpr ⟨by decide, PayloadFault.plain_message h⟩
  case h_8 => cases h

namespace Message

/-- Where this fails, a field is cut short. -/
def Cuts {α : Type} (read : Except PayloadFault α) : Prop :=
  ∀ fault, read = .error fault → fault.isCut = true

section Cuts

variable {α β : Type}

theorem cuts_ok (value : α) : Cuts (.ok value) :=
  fun _ h => by cases h

theorem Cuts.bind {read : Except PayloadFault α} {next : α → Except PayloadFault β}
    (h : Cuts read) (hnext : ∀ value, Cuts (next value)) : Cuts (read >>= next) := by
  cases read with
  | error fault =>
    rintro fault ⟨⟩
    exact h fault rfl
  | ok value => exact hnext value

theorem cuts_word (cursor : Cursor) : Cuts cursor.word := by
  unfold Cursor.word
  split
  · exact cuts_ok _
  · rintro fault ⟨⟩
    rfl

theorem cuts_flag (cursor : Cursor) : Cuts cursor.flag := by
  unfold Cursor.flag
  split
  · exact cuts_ok _
  · rintro fault ⟨⟩
    rfl

theorem cuts_string (cursor : Cursor) : Cuts cursor.string := by
  refine (cuts_word cursor).bind fun found => ?_
  simp only
  split
  · exact cuts_ok _
  · rintro fault ⟨⟩
    rfl

theorem cuts_text (cursor : Cursor) : Cuts cursor.text :=
  (cuts_string cursor).bind fun _ => cuts_ok _

end Cuts

theorem cuts_serviceRequest (payload : Bytes) : Cuts (ServiceRequest.parse payload) := by
  unfold ServiceRequest.parse
  split
  · exact cuts_ok _
  · exact (cuts_text _).bind fun _ => cuts_ok _

/-- The optional fields are never missed. -/
theorem cuts_channelOpen (payload : Bytes) : Cuts (ChannelOpen.parse payload) := by
  refine (cuts_text _).bind fun _ => (cuts_word _).bind fun _ => ?_
  simp only
  split
  · exact cuts_ok _
  · split <;> exact cuts_ok _

theorem cuts_channelRequest (payload : Bytes) : Cuts (ChannelRequest.parse payload) :=
  (cuts_word _).bind fun _ => (cuts_text _).bind fun _ => (cuts_flag _).bind fun _ => cuts_ok _

theorem cuts_channelData (payload : Bytes) : Cuts (ChannelData.parse payload) :=
  (cuts_word _).bind fun _ => (cuts_string _).bind fun _ => cuts_ok _

theorem cuts_channelClose (payload : Bytes) : Cuts (ChannelClose.parse payload) :=
  (cuts_word _).bind fun _ => cuts_ok _

theorem cuts_disconnect (payload : Bytes) : Cuts (Disconnect.parse payload) := by
  unfold Disconnect.parse
  split
  · exact cuts_ok _
  · refine (cuts_word _).bind fun _ => ?_
    simp only
    split
    · exact cuts_ok _
    · refine (cuts_text _).bind fun _ => ?_
      split
      · exact cuts_ok _
      · exact (cuts_text _).bind fun _ => cuts_ok _

end Message

/-- A payload that has to be read and cannot be is cut short. -/
theorem Packet.isCut_of_flaw? {packet : Packet} {cause : PayloadFault}
    (h : packet.flaw? = some cause) : cause.isCut = true := by
  have hcut {α : Type} {parsed : Except PayloadFault α} (hcuts : Message.Cuts parsed)
      (h : errorOf? parsed = some cause) : cause.isCut = true := by
    cases parsed with
    | error fault =>
      cases h
      exact hcuts _ rfl
    | ok value => cases h
  unfold flaw? at h
  split at h
  · exact hcut (Message.cuts_channelOpen _) h
  · exact hcut (Message.cuts_channelRequest _) h
  · exact hcut (Message.cuts_channelData _) h
  · exact hcut (Message.cuts_channelClose _) h
  · exact hcut (Message.cuts_disconnect _) h
  · cases h

/-- Without keys a packet fails only so. -/
theorem Dispatcher.isOfSize_of_error {dispatcher : Dispatcher Cleartext} {connection : Connection}
    {inbound : Inbound} {fault : Fault}
    (h : (dispatcher.dispatch connection inbound).result = .error fault) :
    fault.isOfSize = true := by
  have hfailure := (dispatcher.result_error_iff connection inbound fault).mp h
  rw [failure?_of_cleartext] at hfailure
  obtain ⟨cause, hcause, rfl⟩ := Option.map_eq_some_iff.mp hfailure
  exact Packet.isCut_of_flaw? hcause

/-! ## Fields -/

/-- A value of a field under its name. -/
abbrev Field := String × FieldValue

/-- The fields that show a service or a command. -/
def Event.named (event : Event) : List Field :=
  event.fields.filter fun field => field.1 = "service" || field.1 = "command"

/-- The service or the command that the packet names, under the name of its field. A service whose
name cannot be read has none, and neither has a command. -/
def Packet.named (packet : Packet) : List Field :=
  match packet.kind? with
  | some .serviceRequest =>
    [("service", .text (((Message.ServiceRequest.parse packet.payload).toOption.map
      (·.service)).getD ""))]
  | some .channelRequest =>
    match Message.ChannelRequest.parse packet.payload with
    | .ok message =>
      if message.isExec then [("command", .text (message.command?.getD ""))] else []
    | .error _ => []
  | _ => []

/-- A user is shown by a plain name, and a fault by plain words or by those of these streams' faults. -/
def Event.Tidy (faults : List StreamFault) : Event → Prop
  | loginRequested _ user _ | authenticated _ user => Plain user
  | connectionAborted _ fault | shutdownFailed _ fault | serviceUnreadable _ fault =>
    fault.SaidBy faults
  | _ => True

/-- The events show these services and commands, in this order, and are tidy besides. -/
structure Event.Shows (faults : List StreamFault) (names : List Field) (events : List Event) :
    Prop where
  named : events.flatMap Event.named = names
  tidy : ∀ event ∈ events, event.Tidy faults

theorem Event.Shows.append {faults : List StreamFault} {names more : List Field}
    {events later : List Event} (h : Shows faults names events) (hlater : Shows faults more later) :
    Shows faults (names ++ more) (events ++ later) :=
  ⟨by rw [List.flatMap_append, h.named, hlater.named],
    List.forall_mem_append.mpr ⟨h.tidy, hlater.tidy⟩⟩

theorem Event.named_eq (event : Event) :
    event.named = match event with
      | serviceRequested _ service => [("service", .text service)]
      | execRequested _ _ command => [("command", .text command)]
      | _ => [] := by
  cases event <;> simp [named, fields]

/-- Whether the event shows no text of the peer by these fields, and no fault. -/
def Event.isMute : Event → Bool
  | serviceRequested .. | execRequested .. | loginRequested .. | authenticated ..
  | connectionAborted .. | shutdownFailed .. | serviceUnreadable .. => false
  | _ => true

theorem Event.shows_of_mute {faults : List StreamFault} {events : List Event}
    (h : ∀ event ∈ events, event.isMute = true) : Shows faults [] events := by
  refine ⟨List.flatMap_eq_nil_iff.mpr fun event hmem => ?_, fun event hmem => ?_⟩
  · have hmute := h event hmem
    rw [named_eq]
    cases event <;> first | rfl | cases hmute
  · have hmute := h event hmem
    cases event <;> trivial

theorem Event.shows_mute {faults : List StreamFault} {event : Event} (h : event.isMute = true) :
    Shows faults [] [event] :=
  shows_of_mute (List.forall_mem_singleton.mpr h)

theorem plain_userHint (payload : Bytes) : Plain ((userHint payload).getD "") := by
  unfold userHint
  split
  · decide
  · next user rest _ =>
    split
    · decide
    · next hgiven =>
      simp only [Bool.or_eq_true, not_or, List.any_eq_true, not_exists, not_and,
        Bool.not_eq_true] at hgiven
      exact hgiven.2

/-! ## One packet -/

namespace Connection

variable (faults : List StreamFault) (connection : Connection)

theorem shows_serviceRequest (payload : Bytes) :
    Event.Shows faults [("service", .text (((Message.ServiceRequest.parse payload).toOption.map
      (·.service)).getD ""))] (connection.serviceRequest payload).events := by
  have hcuts := Message.cuts_serviceRequest payload
  unfold serviceRequest
  cases hparse : Message.ServiceRequest.parse payload with
  | error fault =>
    have hplain : Plain (Fault.payload fault).message := Fault.plain_message (hcuts fault hparse)
    refine ⟨?_, List.forall_mem_cons.mpr ⟨.inl hplain, List.forall_mem_singleton.mpr trivial⟩⟩
    simp [Handled.unchanged, Event.named_eq, Except.toOption]
  | ok request =>
    refine ⟨?_, List.forall_mem_singleton.mpr trivial⟩
    simp [Handled.unchanged, Event.named_eq, Except.toOption]

theorem shows_authRequest (markers : Markers) (payload : Bytes) :
    Event.Shows faults [] (connection.authRequest markers payload).events := by
  have hplain := plain_userHint payload
  unfold authRequest
  simp only
  split
  · split
    · exact ⟨by simp [Event.named_eq], List.forall_mem_singleton.mpr hplain⟩
    · exact ⟨by simp [Event.named_eq],
        List.forall_mem_cons.mpr ⟨hplain, List.forall_mem_singleton.mpr hplain⟩⟩
  · exact ⟨by simp [Handled.unchanged, Event.named_eq], List.forall_mem_singleton.mpr hplain⟩

theorem shows_channelOpen (payload : Bytes) :
    Event.Shows faults [] (connection.channelOpen payload).events := by
  refine Event.shows_of_mute ?_
  unfold channelOpen
  split
  · exact List.forall_mem_nil _
  · simp only [ChannelTable.openChannel]
    refine List.forall_mem_append.mpr ⟨?_, List.forall_mem_singleton.mpr rfl⟩
    split
    · exact List.forall_mem_singleton.mpr rfl
    · split
      · exact List.forall_mem_singleton.mpr rfl
      · exact List.forall_mem_nil _

theorem shows_channelRequest (payload : Bytes) :
    Event.Shows faults
      (match Message.ChannelRequest.parse payload with
        | .ok message =>
          if message.isExec then [("command", .text (message.command?.getD ""))] else []
        | .error _ => [])
      (connection.channelRequest payload).events := by
  unfold channelRequest
  cases Message.ChannelRequest.parse payload with
  | error fault => exact Event.shows_of_mute (List.forall_mem_nil _)
  | ok message =>
    simp only
    split
    · exact ⟨by simp [Event.named_eq], List.forall_mem_singleton.mpr trivial⟩
    · exact Event.shows_mute rfl

theorem shows_channelData (payload : Bytes) :
    Event.Shows faults [] (connection.channelData payload).events := by
  refine Event.shows_of_mute ?_
  unfold channelData
  split
  · exact List.forall_mem_nil _
  · refine List.forall_mem_append.mpr ⟨?_, List.forall_mem_singleton.mpr rfl⟩
    split
    · exact List.forall_mem_singleton.mpr rfl
    · exact List.forall_mem_nil _

theorem shows_channelClose (payload : Bytes) :
    Event.Shows faults [] (connection.channelClose payload).events := by
  refine Event.shows_of_mute ?_
  unfold channelClose
  split
  · exact List.forall_mem_nil _
  · refine List.forall_mem_singleton.mpr ?_
    split <;> rfl

theorem shows_disconnect (payload : Bytes) :
    Event.Shows faults [] (connection.disconnect payload).events := by
  unfold disconnect
  split
  · exact Event.shows_of_mute (List.forall_mem_nil _)
  · exact Event.shows_mute rfl

theorem shows_unsupported (policy : UnsupportedPolicy) (inbound : Inbound) :
    Event.Shows faults [] (connection.unsupported policy inbound).events := by
  cases policy <;> exact Event.shows_mute rfl

end Connection

/-- **One packet** shows the service or the command that it names, and no other text of the peer that
is not plain. -/
theorem Dispatcher.shows_dispatch {κ : Type} [KeyExchange κ] (faults : List StreamFault)
    (dispatcher : Dispatcher κ) (connection : Connection) (inbound : Inbound) :
    Event.Shows faults inbound.packet.named (dispatcher.dispatch connection inbound).events := by
  unfold dispatch answer Packet.named
  cases inbound.packet.kind? with
  | none => exact connection.shows_unsupported faults _ inbound
  | some kind =>
    cases kind with
    | serviceRequest => exact connection.shows_serviceRequest faults _
    | authRequest => exact connection.shows_authRequest faults _ _
    | channelOpen => exact connection.shows_channelOpen faults _
    | channelRequest => exact connection.shows_channelRequest faults _
    | channelData => exact connection.shows_channelData faults _
    | channelClose => exact connection.shows_channelClose faults _
    | disconnect => exact connection.shows_disconnect faults _
    | keyExchangeInit =>
      simp only [keyExchangeInit]
      split
      · exact Event.shows_of_mute (List.forall_mem_nil _)
      · exact Event.shows_mute rfl
    | newKeys =>
      simp only [newKeys]
      split <;> exact Event.shows_of_mute (List.forall_mem_nil _)
    | ignore | unimplemented | debug | channelWindowAdjust | channelEnd =>
      exact Event.shows_mute rfl
    | serviceAccept | authFailure | authSuccess | authPublicKeyOk | channelOpenConfirmation
    | channelSuccess => exact connection.shows_unsupported faults _ inbound

end MockSsh
