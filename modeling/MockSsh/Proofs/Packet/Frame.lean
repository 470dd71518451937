import MockSsh.Packet

/-!
Which byte strings are frames, told without a decoder, and what reading and writing make of them.

`Frame.total` and `Frame.paddingLength` read the two lengths off the first five bytes. A byte string
is cut wrong (`Miscut`), or its padding leaves no room for a message number (`Crowded`), or it is a
frame (`Complete`), and then `Frame.content` is the packet in it. `Packet.ofFrame` answers by these
three cases. `Frame.padded` frames a message with any bytes as its padding, and a packet is written so,
with zeros (`Packet.encode_eq_padded`); that is a complete frame exactly if the packet's length fits
into the length field (`complete_encode_iff`).
-/
namespace MockSsh

namespace Frame

/-- The number in the first four bytes, the most significant first. -/
def total (frame : Bytes) : Nat :=
  (frame.take 4).foldl (fun value byte => 256 * value + byte.toNat) 0

/-- The fifth byte: how many bytes of padding there are at the end. -/
def paddingLength (frame : Bytes) : UInt8 :=
  frame.getD 4 0

/-- Where the padding starts. -/
def paddingStart (frame : Bytes) : Nat :=
  frame.length - (paddingLength frame).toNat

/-- A header, then as many bytes as it declares, with room for the padding's length and the message
number beside the padding. -/
structure Complete (frame : Bytes) : Prop where
  header : Header.size ≤ frame.length
  length : frame.length = 4 + total frame
  room : (paddingLength frame).toNat + 2 ≤ total frame

/-- Not even a header, or more or fewer bytes behind it than it declares. Behind the header a total of
zero and a total of one both declare nothing. -/
def Miscut (frame : Bytes) : Prop :=
  frame.length < Header.size ∨ frame.length - Header.size ≠ total frame - 1

/-- As many bytes as the header declares, and padding that leaves none for the message number. -/
structure Crowded (frame : Bytes) : Prop where
  header : Header.size ≤ frame.length
  body : frame.length - Header.size = total frame - 1
  room : frame.length - Header.size ≤ (paddingLength frame).toNat

/-- The packet of a complete frame: the message number is the sixth byte, and the payload is what
stands between it and the padding. -/
def content (frame : Bytes) : Packet where
  number := frame.getD 5 0
  payload := (frame.take (paddingStart frame)).drop 6
  padding := paddingLength frame

theorem miscut_or_crowded_or_complete (frame : Bytes) :
    Miscut frame ∨ Crowded frame ∨ Complete frame := by
  by_cases hsize : frame.length < Header.size
  · exact .inl (.inl hsize)
  by_cases hbody : frame.length - Header.size = total frame - 1
  · by_cases hroom : frame.length - Header.size ≤ (paddingLength frame).toNat
    · exact .inr (.inl ⟨Nat.le_of_not_lt hsize, hbody, hroom⟩)
    · -- padding shorter than the body rules out an empty body, hence a total of zero
      simp only [Header.size] at hsize hbody hroom
      exact .inr (.inr ⟨Nat.le_of_not_lt hsize, by omega, by omega⟩)
  · exact .inl (.inr hbody)

theorem Crowded.not_miscut {frame : Bytes} (h : Crowded frame) : ¬ Miscut frame := by
  rintro (hsize | hbody)
  · exact Nat.not_lt.mpr h.header hsize
  · exact hbody h.body

/-- The lengths of a frame are read off its header. -/
theorem total_take {n : Nat} (h : Header.size ≤ n) (input : Bytes) :
    total (input.take n) = total input := by
  have hfour : min 4 n = 4 := Nat.min_eq_left (Nat.le_trans (by decide) h)
  rw [total, total, List.take_take, hfour]

theorem paddingLength_take {n : Nat} (h : Header.size ≤ n) (input : Bytes) :
    paddingLength (input.take n) = paddingLength input := by
  rw [paddingLength, paddingLength, List.getD_eq_getElem?_getD, List.getElem?_take_of_lt h,
    List.getD_eq_getElem?_getD]

theorem total_append {input : Bytes} (h : Header.size ≤ input.length) (more : Bytes) :
    total (input ++ more) = total input := by
  rw [← total_take h (input ++ more), List.take_left]

/-! ## Frames byte by byte -/

theorem total_cons (a b c d : UInt8) (rest : Bytes) :
    total (a :: b :: c :: d :: rest) = (decodeWord a b c d).toNat := by
  rw [toNat_decodeWord]
  simp only [total, List.take_succ_cons, List.take_zero, List.foldl_cons, List.foldl_nil]
  omega

theorem exists_header {frame : Bytes} (h : Header.size ≤ frame.length) :
    ∃ a b c d padding body, frame = a :: b :: c :: d :: padding :: body := by
  rcases frame with _ | ⟨a, _ | ⟨b, _ | ⟨c, _ | ⟨d, _ | ⟨padding, body⟩⟩⟩⟩⟩
  case cons.cons.cons.cons.cons => exact ⟨a, b, c, d, padding, body, rfl⟩
  all_goals simp [Header.size] at h

theorem total_lt_size {frame : Bytes} (h : Header.size ≤ frame.length) :
    total frame < UInt32.size := by
  obtain ⟨a, b, c, d, padding, body, rfl⟩ := exists_header h
  rw [total_cons]
  exact UInt32.toNat_lt_size _

/-- A header that was read declares the body by the number in its bytes. -/
theorem bodyLength_eq {a b c d padding : UInt8} {header : Header}
    (hheader : Header.ofBytes a b c d padding = header) (body : Bytes) :
    header.bodyLength = total (a :: b :: c :: d :: padding :: body) - 1 := by
  rw [total_cons, ← hheader]
  rfl

/-- A complete frame has a message number, and its padding lies behind it. -/
theorem Complete.exists_number {frame : Bytes} (h : Complete frame) :
    ∃ a b c d padding number rest, frame = a :: b :: c :: d :: padding :: number :: rest ∧
      rest.length + 2 = total frame ∧ padding.toNat ≤ rest.length ∧
      paddingStart frame = rest.length - padding.toNat + 6 := by
  obtain ⟨hheader, hlength, hroom⟩ := h
  obtain ⟨a, b, c, d, padding, body, rfl⟩ := exists_header hheader
  have hroom : padding.toNat + 2 ≤ total (a :: b :: c :: d :: padding :: body) := hroom
  cases body with
  | nil =>
    simp only [List.length_cons, List.length_nil] at hlength
    omega
  | cons number rest =>
    simp only [List.length_cons] at hlength
    have hpadding : padding.toNat ≤ rest.length := by omega
    refine ⟨a, b, c, d, padding, number, rest, rfl, by omega, hpadding, ?_⟩
    show rest.length + 6 - padding.toNat = _
    omega

theorem encodeWord_total {frame : Bytes} (h : Header.size ≤ frame.length) :
    encodeWord (UInt32.ofNat (total frame)) = frame.take 4 := by
  obtain ⟨a, b, c, d, padding, body, rfl⟩ := exists_header h
  rw [total_cons, UInt32.ofNat_toNat, encodeWord_decodeWord]
  rfl

/-! ## Frames with any padding -/

section Padded

/-- The frame of a message with the given bytes for padding. -/
def padded (number : UInt8) (payload padding : Bytes) : Bytes :=
  encodeWord (UInt32.ofNat (2 + payload.length + padding.length))
    ++ UInt8.ofNat padding.length :: number :: (payload ++ padding)

variable (number : UInt8) (payload padding : Bytes)

theorem length_padded :
    (padded number payload padding).length = 4 + (2 + payload.length + padding.length) := by
  simp only [padded, List.length_append, length_encodeWord, List.length_cons]
  omega

/-- The length field holds the length modulo 2^32. -/
theorem total_padded :
    total (padded number payload padding)
      = (2 + payload.length + padding.length) % UInt32.size := by
  show total (_ :: _ :: _ :: _ :: _) = _
  rw [total_cons, decodeWord_encodeWord]
  exact UInt32.toNat_ofNat'

variable {padding} (hpadding : padding.length < UInt8.size)
include hpadding

theorem toNat_paddingLength_padded :
    (paddingLength (padded number payload padding)).toNat = padding.length :=
  UInt8.toNat_ofNat_of_lt hpadding

/-- Of the padding nothing but its length is read. -/
theorem content_padded :
    content (padded number payload padding) = ⟨number, payload, UInt8.ofNat padding.length⟩ := by
  have hstart : paddingStart (padded number payload padding) = payload.length + 6 := by
    rw [paddingStart, toNat_paddingLength_padded number payload hpadding, length_padded]
    omega
  have hpayload : ((padded number payload padding).take (payload.length + 6)).drop 6 = payload := by
    show (payload ++ _).take payload.length = _
    exact List.take_left
  rw [content, hstart, hpayload]
  rfl

theorem complete_padded (h : 2 + payload.length + padding.length < UInt32.size) :
    Complete (padded number payload padding) := by
  have htotal : total (padded number payload padding) = 2 + payload.length + padding.length := by
    rw [total_padded, Nat.mod_eq_of_lt h]
  refine ⟨?_, ?_, ?_⟩
  · rw [length_padded, Header.size]
    omega
  · rw [length_padded, htotal]
  · rw [htotal, toNat_paddingLength_padded number payload hpadding]
    omega

end Padded

end Frame

namespace Packet

open MockSsh.Frame

/-! ## Reading a frame -/

/-- A frame with the body that its header declares is read as a whole. -/
theorem ofFrame_of_bodyLength {a b c d padding : UInt8} {header : Header} {body : Bytes}
    (hheader : Header.ofBytes a b c d padding = header) (h : body.length = header.bodyLength) :
    ofFrame (a :: b :: c :: d :: padding :: body) = ofBody header body := by
  simp only [ofFrame, hheader, h, Nat.lt_irrefl, if_false]

theorem ofFrame_of_miscut {frame : Bytes} (h : Miscut frame) :
    ∃ cause, ofFrame frame = .error (.protocol cause) := by
  unfold ofFrame
  split
  · next a b c d padding body =>
    obtain ⟨header, hheader⟩ : ∃ header, Header.ofBytes a b c d padding = header := ⟨_, rfl⟩
    have hbody : body.length ≠ header.bodyLength := by
      rw [bodyLength_eq hheader body]
      simp only [Miscut, Header.size, List.length_cons] at h
      omega
    simp only [hheader]
    by_cases hcut : body.length < header.bodyLength
    · rw [if_pos hcut]
      exact ⟨_, rfl⟩
    · rw [if_neg hcut, if_pos (by omega)]
      exact ⟨_, rfl⟩
  · exact ⟨_, rfl⟩

theorem ofFrame_of_crowded {frame : Bytes} (h : Crowded frame) :
    ofFrame frame = .error (.frame (paddingLength frame) (frame.length - Header.size)) := by
  obtain ⟨hheader, hbody, hroom⟩ := h
  obtain ⟨a, b, c, d, padding, body, rfl⟩ := exists_header hheader
  obtain ⟨header, hheader⟩ : ∃ header, Header.ofBytes a b c d padding = header := ⟨_, rfl⟩
  have hbody : body.length = _ := hbody
  have hroom : body.length ≤ padding.toNat := hroom
  have hpadding : header.padding = padding := by
    rw [← hheader]
    rfl
  rw [← bodyLength_eq hheader] at hbody
  rw [ofFrame_of_bodyLength hheader hbody]
  cases body with
  | nil =>
    rw [ofBody, hpadding]
    rfl
  | cons number rest =>
    simp only [ofBody, hpadding]
    rw [if_pos (Nat.lt_of_succ_le hroom)]
    rfl

theorem ofFrame_of_complete {frame : Bytes} (h : Complete frame) :
    ofFrame frame = .ok (content frame) := by
  obtain ⟨a, b, c, d, padding, number, rest, rfl, htotal, hroom, hstart⟩ := h.exists_number
  obtain ⟨header, hheader⟩ : ∃ header, Header.ofBytes a b c d padding = header := ⟨_, rfl⟩
  have hpadding : header.padding = padding := by
    rw [← hheader]
    rfl
  have hbody : (number :: rest).length = header.bodyLength := by
    rw [bodyLength_eq hheader (number :: rest), ← htotal]
    rfl
  rw [ofFrame_of_bodyLength hheader hbody]
  simp only [ofBody, hpadding]
  rw [if_neg (Nat.not_lt.mpr hroom), content, hstart]
  rfl

theorem ofFrame_eq_ok_iff {frame : Bytes} {packet : Packet} :
    ofFrame frame = .ok packet ↔ Complete frame ∧ packet = content frame := by
  constructor
  · intro h
    rcases miscut_or_crowded_or_complete frame with hcut | hcrowded | hcomplete
    · obtain ⟨cause, hcause⟩ := ofFrame_of_miscut hcut
      cases hcause.symm.trans h
    · cases (ofFrame_of_crowded hcrowded).symm.trans h
    · cases (ofFrame_of_complete hcomplete).symm.trans h
      exact ⟨hcomplete, rfl⟩
  · rintro ⟨hcomplete, rfl⟩
    exact ofFrame_of_complete hcomplete

theorem cases_of_ofFrame_error {frame : Bytes} {fault : Fault} (h : ofFrame frame = .error fault) :
    (Miscut frame ∧ ∃ cause, fault = .protocol cause) ∨
      (Crowded frame ∧ fault = .frame (paddingLength frame) (frame.length - Header.size)) := by
  rcases miscut_or_crowded_or_complete frame with hcut | hcrowded | hcomplete
  · obtain ⟨cause, hcause⟩ := ofFrame_of_miscut hcut
    cases hcause.symm.trans h
    exact .inl ⟨hcut, cause, rfl⟩
  · cases (ofFrame_of_crowded hcrowded).symm.trans h
    exact .inr ⟨hcrowded, rfl⟩
  · cases (ofFrame_of_complete hcomplete).symm.trans h

/-! ## Writing what was read -/

theorem totalLength_content {frame : Bytes} (h : Complete frame) :
    (content frame).totalLength = total frame := by
  obtain ⟨-, hlength, hroom⟩ := h
  simp only [totalLength, content, paddingStart, List.length_drop, List.length_take]
  omega

/-- Only the padding may differ from what was read: it is written as zeros. -/
theorem encode_content {frame : Bytes} (h : Complete frame) :
    (content frame).encode = frame.take (paddingStart frame)
      ++ List.replicate (paddingLength frame).toNat 0 := by
  -- only the length field is computed anew; every other byte is copied
  rw [encode, totalLength_content h, encodeWord_total h.header]
  obtain ⟨a, b, c, d, padding, number, rest, rfl, -, -, hstart⟩ := h.exists_number
  rw [content, hstart]
  rfl

/-- **The grammar of frames.** Exactly the complete frames are read. The packet then has the sixth
byte for its number, the bytes between it and the padding for its payload and the fifth byte for its
padding; it is as long as the frame declares, and is written as the frame with zeros in place of the
padding. What is cut wrong is a breach of the protocol, and what is cut right and still not read has
padding that does not fit. -/
theorem ofFrame_grammar (frame : Bytes) :
    ((∃ packet, ofFrame frame = .ok packet) ↔ Complete frame) ∧
    (∀ packet, ofFrame frame = .ok packet →
      frame[5]? = some packet.number ∧
      packet.payload = (frame.take (paddingStart frame)).drop 6 ∧
      packet.padding = paddingLength frame ∧
      packet.totalLength = total frame ∧
      packet.encode.length = frame.length ∧
      packet.encode = frame.take (paddingStart frame)
        ++ List.replicate (paddingLength frame).toNat 0) ∧
    ∀ fault, ofFrame frame = .error fault →
      (Miscut frame → ∃ cause, fault = .protocol cause) ∧
      (¬ Miscut frame → fault = .frame (paddingLength frame) (frame.length - Header.size)) := by
  refine ⟨⟨?_, ?_⟩, ?_, ?_⟩
  · rintro ⟨packet, h⟩
    exact (ofFrame_eq_ok_iff.mp h).1
  · intro h
    exact ⟨content frame, ofFrame_of_complete h⟩
  · intro packet h
    obtain ⟨hcomplete, rfl⟩ := ofFrame_eq_ok_iff.mp h
    have hencode := encode_content hcomplete
    refine ⟨?_, rfl, rfl, totalLength_content hcomplete, ?_, hencode⟩
    · obtain ⟨a, b, c, d, padding, number, rest, rfl, -⟩ := hcomplete.exists_number
      rfl
    · obtain ⟨-, hlength, hroom⟩ := hcomplete
      rw [hencode, List.length_append, List.length_take, List.length_replicate, paddingStart]
      omega
  · intro fault h
    rcases cases_of_ofFrame_error h with ⟨hcut, hfault⟩ | ⟨hcrowded, hfault⟩
    · exact ⟨fun _ => hfault, fun hnot => absurd hcut hnot⟩
    · exact ⟨fun hcut => absurd hcut hcrowded.not_miscut, fun _ => hfault⟩

/-- A total of zero and a total of one leave the same body, without a message number. -/
example : ofFrame [0, 0, 0, 0, 0] = ofFrame [0, 0, 0, 1, 0] := rfl

/-! ## Reading what was written -/

/-- A packet is written with zeros for padding. -/
theorem encode_eq_padded (packet : Packet) :
    packet.encode
      = padded packet.number packet.payload (List.replicate packet.padding.toNat 0) := by
  rw [encode, padded, List.length_replicate, UInt8.ofNat_toNat]
  rfl

@[simp] theorem length_encode (packet : Packet) :
    packet.encode.length = 4 + packet.totalLength := by
  rw [encode_eq_padded, length_padded, List.length_replicate]
  rfl

/-- The length field holds the length modulo 2^32. -/
@[simp] theorem total_encode (packet : Packet) :
    total packet.encode = packet.totalLength % UInt32.size := by
  rw [encode_eq_padded, total_padded, List.length_replicate]
  rfl

@[simp] theorem content_encode (packet : Packet) : content packet.encode = packet := by
  have hpadding : (List.replicate packet.padding.toNat (0 : UInt8)).length < UInt8.size := by
    rw [List.length_replicate]
    exact packet.padding.toNat_lt
  rw [encode_eq_padded, content_padded _ _ hpadding, List.length_replicate, UInt8.ofNat_toNat]

theorem complete_encode_iff {packet : Packet} :
    Complete packet.encode ↔ packet.totalLength < UInt32.size := by
  constructor
  · rintro ⟨-, hlength, -⟩
    have hword := Nat.mod_lt packet.totalLength (show 0 < UInt32.size by decide)
    rw [length_encode, total_encode] at hlength
    omega
  · intro h
    have htotal : total packet.encode = packet.totalLength := by
      rw [total_encode, Nat.mod_eq_of_lt h]
    refine ⟨?_, ?_, ?_⟩
    · rw [length_encode, totalLength, Header.size]
      omega
    · rw [length_encode, htotal]
    · rw [htotal, totalLength]
      show packet.padding.toNat + 2 ≤ _
      omega

/-- A length field that is too small declares fewer bytes than were written. -/
theorem miscut_encode {packet : Packet} (h : UInt32.size ≤ packet.totalLength) :
    Miscut packet.encode := by
  have hsize : 1 < UInt32.size := by decide
  have hword := Nat.mod_lt packet.totalLength (Nat.lt_of_succ_lt hsize)
  -- the frame is too long for its length field, never too short: what is left over is behind it
  right
  rw [length_encode, total_encode, Header.size]
  omega

/-- **A packet is read back from its frame** exactly if its length fits into 32 bits, whatever its
number, payload and padding. Of a longer one the length is written modulo 2^32, and what was written
is a breach of the protocol, not another packet. -/
theorem ofFrame_encode_iff (packet : Packet) :
    (ofFrame packet.encode = .ok packet ↔
      2 + packet.payload.length + packet.padding.toNat ≤ UInt32.size - 1) ∧
    (UInt32.size - 1 < 2 + packet.payload.length + packet.padding.toNat →
      total packet.encode = (2 + packet.payload.length + packet.padding.toNat) % UInt32.size ∧
      ∃ cause, ofFrame packet.encode = .error (.protocol cause)) := by
  have hlength : packet.totalLength = 2 + packet.payload.length + packet.padding.toNat := rfl
  rw [← hlength]
  refine ⟨?_, fun hlong => ⟨total_encode packet, ofFrame_of_miscut (miscut_encode ?_)⟩⟩
  · rw [ofFrame_eq_ok_iff, content_encode, complete_encode_iff, eq_self, and_true]
    omega
  · omega

/-- The shortest packet that does not fit, with the server's own padding. -/
theorem ofFrame_encode_overlong :
    let packet : Packet := .ofNumber 94 (List.replicate (UInt32.size - 6) 0)
    packet.totalLength = UInt32.size ∧ total packet.encode = 0 ∧
      ∃ cause, ofFrame packet.encode = .error (.protocol cause) := by
  intro packet
  have hpayload : packet.payload.length = UInt32.size - 6 := List.length_replicate
  have hpadding : packet.padding.toNat = 4 := rfl
  have hlength : 2 + packet.payload.length + packet.padding.toNat = UInt32.size := by
    have hroom : 6 ≤ UInt32.size := by decide
    omega
  obtain ⟨htotal, hfault⟩ := (ofFrame_encode_iff packet).2 (by rw [hlength]; decide)
  rw [hlength] at htotal
  exact ⟨hlength, htotal, hfault⟩

end Packet
end MockSsh
