import MockSsh.Message.Channel
import MockSsh.Message.Service
import MockSsh.Message.Transport
import MockSsh.Proofs.Access.Reader
import MockSsh.Proofs.Dispatch.Logins
import MockSsh.Proofs.Packet.Frame

/-!
Everything that is parsed of a peer's bytes, parsed by places: frames and bodies, each message, and what
requests and login requests are asked for. No bytes make any of it do something wrong with a place
(`parsers_within_bytes`): it ends at a place of the bytes, with the answer that the cursor gives.
-/
namespace MockSsh.Access

open Message (Cursor)

/-! ## Frames -/

/-- The packet in a body. -/
def ofBody (header : Header) (body : Bytes) : Access (Except Fault Packet) := do
  if body.length ≤ header.padding.toNat then
    return .error (.frame header.padding body.length)
  else
    let number ← byteAt body 0
    let payload ← slice body 1 (← difference body.length header.padding.toNat)
    return .ok ⟨number, payload, header.padding⟩

/-- The header in its five bytes. -/
def header (raw : Bytes) : Access Header := do
  return .ofBytes (← byteAt raw 0) (← byteAt raw 1) (← byteAt raw 2) (← byteAt raw 3) (← byteAt raw 4)

/-- The packet in one complete frame. -/
def ofFrame (frame : Bytes) : Access (Except Fault Packet) := do
  if frame.length < Header.size then
    return .error (.protocol (.frameCut frame.length Header.size))
  else
    let header ← header (← slice frame 0 Header.size)
    let body ← slice frame Header.size frame.length
    if body.length < header.bodyLength then
      return .error (.protocol (.bodyCut header.bodyLength body.length))
    else if header.bodyLength < body.length then
      return .error (.protocol (.bodyTrailing (← difference body.length header.bodyLength)))
    else
      ofBody header body

theorem ofBody_eq (header : Header) (body : Bytes) :
    ofBody header body = .ok (Packet.ofBody header body) := by
  unfold ofBody
  by_cases hcrowded : body.length ≤ header.padding.toNat
  · rw [if_pos hcrowded]
    cases body with
    | nil => rfl
    | cons number rest =>
      rw [List.length_cons] at hcrowded
      rw [Packet.ofBody, if_pos (by omega)]
      rfl
  · rw [if_neg hcrowded]
    cases body with
    | nil => exact absurd (Nat.zero_le _) hcrowded
    | cons number rest =>
      rw [List.length_cons] at hcrowded ⊢
      have hroom : header.padding.toNat ≤ rest.length := by omega
      have hdifference : difference (rest.length + 1) header.padding.toNat
          = .ok (rest.length + 1 - header.padding.toNat) := difference_of_le (by omega)
      have hslice : slice (number :: rest) 1 (rest.length + 1 - header.padding.toNat)
          = .ok (rest.take (rest.length - header.padding.toNat)) := by
        rw [slice_of_le (by omega) (by rw [List.length_cons]; omega), Nat.sub_right_comm]
        rfl
      have hnumber : byteAt (number :: rest) 0 = .ok number := rfl
      rw [Packet.ofBody, if_neg (by omega), hnumber, ok_bind, hdifference, ok_bind, hslice]
      rfl

theorem ofFrame_eq (frame : Bytes) : ofFrame frame = .ok (Packet.ofFrame frame) := by
  unfold ofFrame
  by_cases hshort : frame.length < Header.size
  · rw [if_pos hshort]
    unfold Packet.ofFrame
    split
    · simp only [Header.size, List.length_cons] at hshort
      omega
    · rfl
  · have hlong : Header.size ≤ frame.length := Nat.le_of_not_lt hshort
    have hraw : slice frame 0 Header.size = .ok (frame.take Header.size) :=
      slice_of_le (Nat.zero_le _) hlong
    rw [if_neg hshort, hraw, ok_bind, slice_to_end hlong]
    obtain ⟨a, b, c, d, padding, body, rfl⟩ := Frame.exists_header hlong
    have hheader : header ((a :: b :: c :: d :: padding :: body).take Header.size)
        = .ok (.ofBytes a b c d padding) := rfl
    have hbody : (a :: b :: c :: d :: padding :: body).drop Header.size = body := rfl
    rw [hheader, ok_bind, ok_bind, hbody, Packet.ofFrame]
    split
    · rfl
    split
    · next hbehind =>
      rw [difference_of_le (Nat.le_of_lt hbehind)]
      rfl
    · exact ofBody_eq _ body

/-! ## Messages -/

section Messages

open Message

/-- The name of a service, or nothing. -/
def serviceRequest (data : Bytes) : Reader ServiceRequest := do
  if data.isEmpty then return ⟨""⟩
  else return ⟨← text data⟩

/-- An algorithm and a key, and nothing behind them. -/
def publicKeyOk (data : Bytes) : Reader PublicKeyOk := do
  let algorithm ← text data
  let key ← string data
  let place ← here data
  if place = data.length then return ⟨algorithm, key⟩
  else throw (.trailing (← still (difference data.length place)))

/-- A type and three numbers, of which the last two may be missing. -/
def channelOpen (data : Bytes) : Reader ChannelOpen := do
  let channelType ← text data
  let sender ← word data
  match ← attempt (word data) with
  | none => return ⟨channelType, sender, none, none⟩
  | some window => return ⟨channelType, sender, some window, ← attempt (word data)⟩

/-- Four numbers. -/
def channelOpenConfirmation (data : Bytes) : Reader ChannelOpenConfirmation := do
  return ⟨← word data, ← word data, ← word data, ← word data⟩

/-- A number and a string. -/
def channelData (data : Bytes) : Reader ChannelData := do
  return ⟨← word data, ← string data⟩

/-- A number, a type and a flag; what is behind them is kept as it is. -/
def channelRequest (data : Bytes) : Reader ChannelRequest := do
  let recipient ← word data
  let requestType ← text data
  let wantReply ← flag data
  return ⟨recipient, requestType, wantReply, ← still (slice data (← here data) data.length)⟩

/-- Text, unless the end has been reached. -/
def textBeforeEnd (data : Bytes) : Reader String := do
  if (← here data) < data.length then text data
  else return ""

/-- A reason and two texts, each of which may be missing. -/
def disconnect (data : Bytes) : Reader Disconnect := do
  if data.isEmpty then return ⟨0, "", ""⟩
  else return ⟨← word data, ← textBeforeEnd data, ← textBeforeEnd data⟩

/-- A message of one number. -/
def number {μ : Type} (make : UInt32 → μ) (data : Bytes) : Reader μ := do
  return make (← word data)

variable {data : Bytes} (hsize : data.length < UInt64.size / 2)
include hsize

theorem within_serviceRequest : Within data (serviceRequest data) 0 (ServiceRequest.parse data) := by
  unfold serviceRequest ServiceRequest.parse
  split
  · exact within_pure (Nat.zero_le _) _
  refine (follows_text hsize).within (Nat.zero_le _) fun service place hplace => ?_
  exact within_pure hplace _

theorem within_channelOpen : Within data (channelOpen data) 0 (ChannelOpen.parse data) := by
  refine (follows_text hsize).within (Nat.zero_le _) fun channelType place hplace => ?_
  refine (follows_word hsize).within hplace fun sender place hplace => ?_
  refine (follows_word hsize).attempt hplace fun found place hplace hread => ?_
  simp only [hread]
  cases found with
  | error fault => exact within_pure hplace _
  | ok window =>
    refine (follows_word hsize).attempt hplace fun found place hplace hread => ?_
    simp only [Except.map, hread]
    cases found with
    | error fault => exact within_pure hplace _
    | ok maxPacket => exact within_pure hplace _

theorem within_channelOpenConfirmation :
    Within data (channelOpenConfirmation data) 0 (ChannelOpenConfirmation.parse data) := by
  refine (follows_word hsize).within (Nat.zero_le _) fun recipient place hplace => ?_
  refine (follows_word hsize).within hplace fun sender place hplace => ?_
  refine (follows_word hsize).within hplace fun window place hplace => ?_
  refine (follows_word hsize).within hplace fun maxPacket place hplace => ?_
  exact within_pure hplace _

theorem within_channelData : Within data (channelData data) 0 (ChannelData.parse data) := by
  refine (follows_word hsize).within (Nat.zero_le _) fun recipient place hplace => ?_
  refine (follows_string hsize).within hplace fun bytes place hplace => ?_
  exact within_pure hplace _

theorem within_number {μ : Type} (make : UInt32 → μ) :
    Within data (number make data) 0 (do
      let (word, _) ← (Cursor.start data).word
      return make word) := by
  refine (follows_word hsize).within (Nat.zero_le _) fun word place hplace => ?_
  exact within_pure hplace _

theorem within_publicKeyOk : Within data (publicKeyOk data) 0 (PublicKeyOk.parse data) := by
  refine (follows_text hsize).within (Nat.zero_le _) fun algorithm place hplace => ?_
  refine (follows_string hsize).within hplace fun key place hplace => .here hplace ?_
  simp only [List.isEmpty_iff, List.drop_eq_nil_iff]
  by_cases hend : place = data.length
  · rw [if_pos hend, if_pos (Nat.le_of_eq hend.symm)]
    exact within_pure hplace _
  · rw [if_neg hend, if_neg (by omega), List.length_drop]
    exact .still (difference_of_le hplace) ⟨place, hplace, rfl⟩

theorem within_channelRequest : Within data (channelRequest data) 0 (ChannelRequest.parse data) := by
  refine (follows_word hsize).within (Nat.zero_le _) fun recipient place hplace => ?_
  refine (follows_text hsize).within hplace fun requestType place hplace => ?_
  refine (follows_flag hsize).within hplace fun wantReply place hplace => ?_
  -- all that is left is a slice to the end
  refine .here hplace (.still (slice_to_end hplace) ?_)
  exact within_pure hplace _

omit hsize in
theorem Within.textBeforeEnd {α : Type} {next : String → Reader α} {place : Nat}
    {answer : Except PayloadFault α} (hplace : place ≤ data.length)
    (hend : data.length ≤ place → Within data (next "") place answer)
    (hmore : ¬ data.length ≤ place → Within data (text data >>= next) place answer) :
    Within data (textBeforeEnd data >>= next) place answer := by
  rw [Access.textBeforeEnd, bind_assoc]
  refine .here hplace ?_
  by_cases h : data.length ≤ place
  · rw [if_neg (Nat.not_lt.mpr h), pure_bind]
    exact hend h
  · rw [if_pos (Nat.lt_of_not_le h)]
    exact hmore h

theorem within_disconnect : Within data (disconnect data) 0 (Disconnect.parse data) := by
  unfold disconnect Disconnect.parse
  split
  · exact within_pure (Nat.zero_le _) _
  refine (follows_word hsize).within (Nat.zero_le _) fun reason place hplace => ?_
  simp only [List.isEmpty_iff, List.drop_eq_nil_iff]
  split
  · next hend =>
    -- at the end no text is read, and none after it
    exact .textBeforeEnd hplace
      (fun _ => .textBeforeEnd hplace (fun _ => within_pure hplace _) fun hmore => absurd hend hmore)
      fun hmore => absurd hend hmore
  next hmore =>
  refine .textBeforeEnd hplace (fun hend => absurd hend hmore) fun _ => ?_
  refine (follows_text hsize).within hplace fun description place hplace => ?_
  simp only [List.drop_eq_nil_iff]
  split
  · next hend =>
    exact .textBeforeEnd hplace (fun _ => within_pure hplace _) fun hmore => absurd hend hmore
  next hmore =>
  refine .textBeforeEnd hplace (fun hend => absurd hend hmore) fun _ => ?_
  refine (follows_text hsize).within hplace fun language place hplace => ?_
  exact within_pure hplace _

end Messages

/-! ## Requests -/

section Requests

/-- The command of a request that runs one. -/
def command? (message : Message.ChannelRequest) : Reader (Option String) := do
  if message.isExec then attempt (text message.details)
  else return none

/-- The exit code of a request that states one. -/
def exitCode? (message : Message.ChannelRequest) : Reader (Option UInt32) := do
  if message.requestType == "exit-status" then attempt (word message.details)
  else return none

/-- The user that a login request names. -/
def userHint (data : Bytes) : Reader (Option String) := do
  match ← attempt (text data) with
  | none => return none
  | some user => return if user.isEmpty || user.toList.any Text.isControl then none else some user

/-- All slices of one width, from left to right. -/
def windows (data : Bytes) (width : Nat) : Access (List Bytes) :=
  if width = 0 then .error .windows
  else .ok ((List.range (data.length + 1 - width)).map fun first => (data.drop first).take width)

/-- Whether the marker is not empty and a window of the payload has its bytes. -/
def marks (marker : String) (payload : Bytes) : Access Bool := do
  let needle := Utf8.encode marker
  if needle.isEmpty then return false
  else return (← windows payload needle.length).any (· == needle)

/-- The kind of a login request. -/
def classify (markers : Markers) (payload : Bytes) : Access LoginKind := do
  if ← marks markers.probe payload then return .publicKeyProbe
  else if ← marks markers.signed payload then return .signedRequest
  else return .generic

/-- A needle stands somewhere if a window of its width is the needle. -/
theorem windows_any {needle data : Bytes} (h : needle ≠ []) :
    ((List.range (data.length + 1 - needle.length)).map fun first =>
      (data.drop first).take needle.length).any (· == needle) = Bytes.occurs needle data := by
  have hwidth : 0 < needle.length := List.length_pos_iff.mpr h
  rw [Bool.eq_iff_iff, Bytes.occurs_iff, List.any_eq_true]
  constructor
  · rintro ⟨window, hwindow, heq⟩
    obtain ⟨first, -, rfl⟩ := List.mem_map.mp hwindow
    rw [← eq_of_beq heq]
    exact (List.take_prefix _ _).isInfix.trans (List.drop_suffix _ _).isInfix
  · rintro ⟨before, behind, rfl⟩
    refine ⟨needle, List.mem_map.mpr ⟨before.length, List.mem_range.mpr ?_, ?_⟩, beq_self_eq_true _⟩
    · simp only [List.length_append]
      omega
    · rw [List.append_assoc, List.drop_left, List.take_left]

theorem marks_eq (marker : String) (payload : Bytes) :
    marks marker payload = .ok (MockSsh.marks marker payload) := by
  simp only [marks, MockSsh.marks]
  cases hempty : (Utf8.encode marker).isEmpty with
  | true => rfl
  | false =>
    have hneedle : Utf8.encode marker ≠ [] := by
      rintro hnil
      rw [hnil] at hempty
      cases hempty
    have hwidth : (Utf8.encode marker).length ≠ 0 := fun hzero =>
      hneedle (List.length_eq_zero_iff.mp hzero)
    rw [← windows_any hneedle, windows, if_neg hwidth]
    rfl

theorem classify_eq (markers : Markers) (payload : Bytes) :
    classify markers payload = .ok (markers.classify payload) := by
  unfold classify Markers.classify
  rw [marks_eq, ok_bind, marks_eq, ok_bind]
  repeat' split
  all_goals rfl

theorem within_command? {message : Message.ChannelRequest}
    (hsize : message.details.length < UInt64.size / 2) :
    Within message.details (command? message) 0 (.ok message.command?) := by
  unfold command? Message.ChannelRequest.command?
  split
  · exact (follows_text hsize).found (Nat.zero_le _)
  · exact within_pure (Nat.zero_le _) _

theorem within_exitCode? {message : Message.ChannelRequest}
    (hsize : message.details.length < UInt64.size / 2) :
    Within message.details (exitCode? message) 0 (.ok message.exitCode?) := by
  unfold exitCode? Message.ChannelRequest.exitCode?
  split
  · exact (follows_word hsize).found (Nat.zero_le _)
  · exact within_pure (Nat.zero_le _) _

theorem within_userHint {data : Bytes} (hsize : data.length < UInt64.size / 2) :
    Within data (userHint data) 0 (.ok (MockSsh.userHint data)) := by
  refine (follows_text hsize).attempt (Nat.zero_le _) fun found place hplace hread => ?_
  have hstart : (Cursor.start data).text = found.map (·, ⟨data.length, data.drop place⟩) := hread
  rw [MockSsh.userHint, hstart]
  cases found with
  | error fault => exact within_pure hplace _
  | ok user => exact within_pure hplace _

end Requests

/-! ## Everything that is parsed -/

open Message in
/-- **No bytes of a peer**, if they are fewer than 2^63, make anything that parses them do something wrong
with a place: not a frame or a body with any header, not the payload of a message, not the details of a
request or a login request. Whatever the numbers in the bytes say, every field is read from a place of the
bytes, and the answer is the value or the fault that the cursor gives. -/
theorem parsers_within_bytes {data : Bytes} (hsize : data.length < UInt64.size / 2) :
    ofFrame data = .ok (Packet.ofFrame data) ∧
      (∀ header, ofBody header data = .ok (Packet.ofBody header data)) ∧
      Within data (serviceRequest data) 0 (ServiceRequest.parse data) ∧
      Within data (publicKeyOk data) 0 (PublicKeyOk.parse data) ∧
      Within data (channelOpen data) 0 (ChannelOpen.parse data) ∧
      Within data (channelOpenConfirmation data) 0 (ChannelOpenConfirmation.parse data) ∧
      Within data (channelData data) 0 (ChannelData.parse data) ∧
      Within data (channelRequest data) 0 (ChannelRequest.parse data) ∧
      Within data (number ChannelClose.mk data) 0 (ChannelClose.parse data) ∧
      Within data (disconnect data) 0 (Disconnect.parse data) ∧
      Within data (number Unimplemented.mk data) 0 (Unimplemented.parse data) ∧
      (∀ message : ChannelRequest, message.details = data →
        Within data (command? message) 0 (.ok message.command?) ∧
          Within data (exitCode? message) 0 (.ok message.exitCode?)) ∧
      Within data (userHint data) 0 (.ok (MockSsh.userHint data)) ∧
      ∀ markers : Markers, classify markers data = .ok (markers.classify data) := by
  refine ⟨ofFrame_eq data, fun header => ofBody_eq header data, within_serviceRequest hsize,
    within_publicKeyOk hsize, within_channelOpen hsize, within_channelOpenConfirmation hsize,
    within_channelData hsize, within_channelRequest hsize, within_number hsize ChannelClose.mk,
    within_disconnect hsize, within_number hsize Unimplemented.mk, ?_, within_userHint hsize,
    fun markers => classify_eq markers data⟩
  rintro message rfl
  exact ⟨within_command? hsize, within_exitCode? hsize⟩

/-- Bytes that are cut short wherever they are read: an opening without all of its window, a request whose
type is said to be longer than the bytes, and a frame with more behind it than its header declares. -/
theorem parsers_within_bytes_cut :
    let data : Bytes := [0, 0, 0, 1, 0x78, 0, 0, 0, 7, 0xFF, 0xFF, 0xFF]
    data.length < UInt64.size / 2 ∧
      ofFrame data = .ok (.error (.protocol (.bodyTrailing 7))) ∧
      Within data (channelOpen data) 0 (.ok ⟨"x", 7, none, none⟩) ∧
      Within data (channelRequest data) 0 (.error (.stringCut 2013265920 8 12)) ∧
      classify ⟨"", "\x00\x07"⟩ data = .ok .signedRequest := by
  intro data
  have hsize : data.length < UInt64.size / 2 := by decide
  obtain ⟨hframe, -, -, -, hopen, -, -, hrequest, -, -, -, -, -, hclassify⟩ :=
    parsers_within_bytes hsize
  have hopened : Message.ChannelOpen.parse data = .ok ⟨"x", 7, none, none⟩ := by decide +kernel
  have hrequested : Message.ChannelRequest.parse data = .error (.stringCut 2013265920 8 12) := by
    decide +kernel
  rw [hopened] at hopen
  rw [hrequested] at hrequest
  have htrailing : Packet.ofFrame data = .error (.protocol (.bodyTrailing 7)) := by decide +kernel
  have hsigned : Markers.classify ⟨"", "\x00\x07"⟩ data = .signedRequest := by decide +kernel
  exact ⟨hsize, hframe.trans (congrArg _ htrailing), hopen, hrequest,
    (hclassify _).trans (congrArg _ hsigned)⟩

end MockSsh.Access
