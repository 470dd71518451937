import MockSsh.Proofs.Packet.Frame
import MockSsh.Proofs.Stream.Cuts

/-!
What a peer's bytes begin with, told of the bytes alone: `cutLine` cuts off an identification line
and `cutFrame` a frame. The readers of a transport take one byte, five bytes or a body at a time;
they give what the cuts give and leave the bytes after the cut (`readLineBytes_alike`,
`readPacket_alike`), in whatever chunks the bytes come and however the stream ends.
-/
namespace MockSsh

/-! ## Cutting bytes -/

/-- What bytes begin with where a line is expected. -/
inductive LineCut
  /-- A line without its line feed, and the bytes after it. -/
  | line (text rest : Bytes)
  /-- As many bytes as a line may have, without a line feed. -/
  | tooLong (length : Nat) (rest : Bytes)
  /-- Fewer bytes, without a line feed. -/
  | incomplete
deriving DecidableEq, Repr

/-- Cuts off a line of at most `limit` bytes, its line feed included. A line feed that comes first is
always taken. -/
def cutLine (limit : Nat) (input : Bytes) : LineCut :=
  let text := input.takeWhile (· != Transport.lineFeed)
  if max limit 1 ≤ text.length then .tooLong (max limit 1) (input.drop (max limit 1))
  else if text.length < input.length then .line text (input.drop (text.length + 1))
  else .incomplete

/-- The text of a line: one carriage return at its end does not count, and what is no UTF-8 is
replaced. -/
def identificationText (text : Bytes) : String :=
  Utf8.decodeLossy (if text.getLast? = some 0x0D then text.dropLast else text)

/-- What bytes begin with where a frame is expected. -/
inductive FrameCut
  /-- A frame with its packet, and the bytes after the frame. -/
  | packet (packet : Packet) (rest : Bytes)
  /-- A frame that cannot be taken, and the bytes after what was looked at of it. -/
  | refused (fault : Fault) (rest : Bytes)
  /-- Fewer bytes than the header, or than the body that the header declares. -/
  | incomplete

/-- Cuts off a frame whose header declares `total`. Above `limit` it is refused from the header alone;
a frame that is there as a whole is read as a whole. -/
def cutDeclared (limit total : Nat) (input : Bytes) : FrameCut :=
  let size := Header.size + (total - 1)
  if limit < total then .refused (.packetTooLarge total limit) (input.drop Header.size)
  else if input.length < size then .incomplete
  else
    match Packet.ofFrame (input.take size) with
    | .ok packet => .packet packet (input.drop size)
    | .error fault => .refused fault (input.drop size)

/-- Cuts off a frame. -/
def cutFrame (limit : Nat) (input : Bytes) : FrameCut :=
  match input with
  | a :: b :: c :: d :: _ :: _ => cutDeclared limit (decodeWord a b c d).toNat input
  | _ => .incomplete

theorem cutLine_nil (limit : Nat) : cutLine limit [] = .incomplete := by
  have hlimit : ¬ max limit 1 ≤ 0 := by omega
  simp [cutLine, hlimit]

theorem cutLine_lineFeed (limit : Nat) (rest : Bytes) :
    cutLine limit (Transport.lineFeed :: rest) = .line [] rest := by
  have hlimit : ¬ max limit 1 ≤ 0 := by omega
  simp [cutLine, hlimit]

/-- A byte before the line feed counts against the limit and belongs to the line. -/
theorem cutLine_cons {byte : UInt8} (hbyte : byte ≠ Transport.lineFeed) (allowed : Nat)
    (rest : Bytes) :
    cutLine (allowed + 1) (byte :: rest) =
      if allowed = 0 then .tooLong 1 rest
      else match cutLine allowed rest with
        | .line text rest => .line (byte :: text) rest
        | .tooLong length rest => .tooLong (length + 1) rest
        | .incomplete => .incomplete := by
  have hkeep : (byte != Transport.lineFeed) = true := by simpa using hbyte
  cases allowed with
  | zero => simp [cutLine, hkeep]
  | succ allowed =>
    simp only [cutLine, List.takeWhile_cons, hkeep, if_true, List.length_cons,
      Nat.add_le_add_iff_right, Nat.add_lt_add_iff_right, Nat.max_eq_left (Nat.le_add_left 1 _),
      List.drop_succ_cons, Nat.add_one_ne_zero, if_false]
    split
    · rfl
    · split <;> rfl

/-- What stands behind a line feed does not change where the line ends. -/
theorem cutLine_of_line {text : Bytes} (h : Transport.lineFeed ∉ text) (limit : Nat) (rest : Bytes) :
    cutLine limit (text ++ Transport.lineFeed :: rest) =
      if max limit 1 ≤ text.length then
        .tooLong (max limit 1) ((text ++ Transport.lineFeed :: rest).drop (max limit 1))
      else .line text rest := by
  have hbefore : ∀ byte ∈ text, (byte != Transport.lineFeed) = true := by
    intro byte hbyte
    rw [bne_iff_ne]
    rintro rfl
    exact h hbyte
  have htext : (text ++ Transport.lineFeed :: rest).takeWhile (· != Transport.lineFeed) = text := by
    rw [List.takeWhile_append_of_pos hbefore, List.takeWhile_cons_of_neg (by simp),
      List.append_nil]
  have hthere : text.length < (text ++ Transport.lineFeed :: rest).length := by
    rw [List.length_append, List.length_cons]
    omega
  have hrest : (text ++ Transport.lineFeed :: rest).drop (text.length + 1) = rest := by
    rw [← List.drop_drop, List.drop_left]
    rfl
  simp only [cutLine, htext, if_pos hthere, hrest]

/-- A frame takes at least its header. -/
theorem length_cutFrame {limit : Nat} {input rest : Bytes} {packet : Packet}
    (h : cutFrame limit input = .packet packet rest) : rest.length < input.length := by
  unfold cutFrame at h
  split at h
  · next a b c d padding body =>
    simp only [cutDeclared] at h
    split at h
    · cases h
    · split at h
      · cases h
      · split at h
        · cases h
          simp only [List.length_drop, List.length_cons, Header.size]
          omega
        · cases h
  · cases h

namespace Transport

/-- The transport after exact reads that gave `counted` bytes, with `rest` still to come. -/
def advance (transport : Transport) (rest : Bytes) (counted : Nat) : Transport :=
  { transport with
    stream := { transport.stream with chunks := [rest] }
    bytesRead := transport.bytesRead + counted }

@[simp] theorem pending_advance (transport : Transport) (rest : Bytes) (counted : Nat) :
    (transport.advance rest counted).stream.pending = rest := by
  simp [advance, Stream.pending]

@[simp] theorem advance_advance (transport : Transport) (rest last : Bytes) (m n : Nat) :
    (transport.advance rest m).advance last n = transport.advance last (m + n) := by
  simp [advance, Nat.add_assoc]

/-! ## Exact reads -/

theorem recut_read (stream : Stream) (n : Nat) :
    (stream.read n).2.Recut { stream with chunks := [stream.pending.drop n] } := by
  refine ⟨(stream.read n).2.chunks, Stream.read_snd stream n, ?_⟩
  show (stream.read n).2.pending = _
  rw [(stream.read_eq n).2]
  simp [Stream.pending]

theorem readExact_of_le {transport : Transport} {n : Nat}
    (h : n ≤ transport.stream.unread) :
    Alike Recut (transport.readExact n)
      (.ok (some (transport.stream.pending.take n)),
        transport.advance (transport.stream.pending.drop n) n) := by
  have hgiven := (transport.stream.read_eq n).1
  have hafter := recut_read transport.stream n
  rw [if_pos h] at hgiven
  unfold readExact
  generalize transport.stream.read n = read at hgiven hafter ⊢
  obtain ⟨given, after⟩ := read
  cases (show given = _ from hgiven)
  exact .mk _ ⟨after, rfl, hafter⟩

/-- A read of more bytes than are to come takes them all and gives none. -/
theorem readExact_of_lt {transport : Transport} {n : Nat}
    (h : transport.stream.unread < n) :
    Alike Recut (transport.readExact n)
      (endOfRead transport.stream.ending, transport.advance [] 0) := by
  have hgiven := (transport.stream.read_eq n).1
  have hafter := recut_read transport.stream n
  rw [if_neg (Nat.not_le.mpr h)] at hgiven
  rw [List.drop_eq_nil_of_le (Nat.le_of_lt h)] at hafter
  unfold readExact
  generalize transport.stream.read n = read at hgiven hafter ⊢
  obtain ⟨given, after⟩ := read
  cases (show given = _ from hgiven)
  change after.Recut _ at hafter
  simp only [hafter.ending]
  exact .mk _ ⟨after, rfl, hafter⟩

/-- A read that met the end of the bytes gave nothing or a fault, and the end is told alike to every
other reader. -/
theorem alike_endOfRead {α : Type} {ending : Option StreamFault} {after : Transport}
    {read : Except Fault (Option α) × Transport} (h : Alike Recut read (endOfRead ending, after)) :
    (∃ last, last.Recut after ∧ read = (.ok none, last) ∧
      ∀ β : Type, endOfRead ending = (.ok none : Except Fault (Option β))) ∨
    ∃ fault last, last.Recut after ∧ read = (.error fault, last) ∧
      ∀ β : Type, endOfRead ending = (.error fault : Except Fault (Option β)) := by
  obtain ⟨answer, last⟩ := read
  cases h with
  | mk _ hafter =>
    cases ending with
    | none => exact .inl ⟨last, hafter, rfl, fun _ => rfl⟩
    | some fault =>
      by_cases hclosed : fault.isClosed = true
      · exact .inl ⟨last, hafter, by simp [endOfRead, hclosed],
          fun _ => by simp [endOfRead, hclosed]⟩
      · exact .inr ⟨.stream fault, last, hafter, by simp [endOfRead, hclosed],
          fun _ => by simp [endOfRead, hclosed]⟩

/-! ## Lines -/

/-- What reading up to the end of a line gives, as the bytes are cut: `seen` are the bytes of the
line so far, the latest first. -/
def lineRead (transport : Transport) (seen : Bytes) (counted : Nat) :
    LineCut → Except Fault (Option Bytes) × Transport
  | .line text rest => (.ok (some (text.reverse ++ seen)), transport.advance rest counted)
  | .tooLong length rest =>
    (.error (.identificationTooLong (seen.length + length)), transport.advance rest counted)
  | .incomplete => (endOfRead transport.stream.ending, transport.advance [] counted)

/-- At the end of the bytes no line is read. -/
theorem readLineBytes_nil {transport : Transport} (h : transport.stream.pending = [])
    (seen : Bytes) (allowed : Nat) :
    Alike Recut (transport.readLineBytes seen allowed)
      (endOfRead transport.stream.ending, transport.advance [] 0) := by
  have hshort : transport.stream.unread < 1 := by
    rw [Stream.unread, h]
    exact Nat.zero_lt_one
  have hread := readExact_of_lt hshort
  unfold readLineBytes
  rcases alike_endOfRead hread with ⟨last, hlast, hread, hend⟩ | ⟨fault, last, hlast, hread, hend⟩
  · rw [hread, hend]
    exact .mk _ hlast
  · rw [hread, hend]
    exact .mk _ hlast

/-- One byte decides whether the line ends, is too long, or goes on. -/
theorem readLineBytes_cons {transport : Transport} {byte : UInt8} {rest : Bytes}
    (h : transport.stream.pending = byte :: rest) (seen : Bytes) (allowed : Nat) :
    Alike Recut (transport.readLineBytes seen allowed)
      (if byte = lineFeed then (.ok (some seen), transport.advance rest 1)
        else match allowed with
          | 0 => (.error (.identificationTooLong (seen.length + 1)), transport.advance rest 1)
          | allowed + 1 => (transport.advance rest 1).readLineBytes (byte :: seen) allowed) := by
  have hthere : 1 ≤ transport.stream.unread := by
    rw [Stream.unread, h, List.length_cons]
    exact Nat.le_add_left 1 _
  have hread := readExact_of_le hthere
  rw [h] at hread
  rw [readLineBytes.eq_def]
  generalize transport.readExact 1 = read at hread ⊢
  cases hread with
  | mk _ hafter =>
    simp only [List.take_succ_cons, List.take_zero]
    split
    · exact .mk _ hafter
    · cases allowed with
      | zero => exact .mk _ hafter
      | succ allowed => exact hafter.readLineBytes (byte :: seen) allowed

/-- Byte by byte, a line is read as it is cut off the bytes. -/
theorem readLineBytes_alike (transport : Transport) (seen : Bytes) (allowed : Nat) :
    ∃ counted, Alike Recut (transport.readLineBytes seen allowed)
      (transport.lineRead seen counted (cutLine (allowed + 1) transport.stream.pending)) := by
  induction allowed generalizing transport seen with
  | zero =>
    cases hinput : transport.stream.pending with
    | nil =>
      rw [cutLine_nil]
      exact ⟨0, readLineBytes_nil hinput seen 0⟩
    | cons byte rest =>
      have hstep := readLineBytes_cons hinput seen 0
      by_cases hbyte : byte = lineFeed
      · rw [if_pos hbyte] at hstep
        rw [hbyte, cutLine_lineFeed]
        exact ⟨1, hstep⟩
      · rw [if_neg hbyte] at hstep
        rw [cutLine_cons hbyte, if_pos rfl]
        exact ⟨1, hstep⟩
  | succ allowed ih =>
    cases hinput : transport.stream.pending with
    | nil =>
      rw [cutLine_nil]
      exact ⟨0, readLineBytes_nil hinput seen (allowed + 1)⟩
    | cons byte rest =>
      have hstep := readLineBytes_cons hinput seen (allowed + 1)
      by_cases hbyte : byte = lineFeed
      · rw [if_pos hbyte] at hstep
        rw [hbyte, cutLine_lineFeed]
        exact ⟨1, hstep⟩
      · rw [if_neg hbyte] at hstep
        rw [cutLine_cons hbyte, if_neg (Nat.succ_ne_zero allowed)]
        obtain ⟨counted, hrest⟩ := ih (transport.advance rest 1) (byte :: seen)
        rw [pending_advance] at hrest
        refine ⟨1 + counted, alike_trans hstep (alike_trans hrest ?_)⟩
        -- what the rest gives to a reader that has seen `byte` is what the whole gives without it
        cases cutLine (allowed + 1) rest with
        | line text rest =>
          simp only [lineRead, advance_advance, List.reverse_cons, List.append_assoc,
            List.singleton_append]
          exact .mk _ (.refl _)
        | tooLong length rest =>
          simp only [lineRead, advance_advance, List.length_cons]
          rw [Nat.add_assoc, Nat.add_comm 1 length]
          exact .mk _ (.refl _)
        | incomplete =>
          simp only [lineRead, advance_advance]
          exact .mk _ (.refl _)

theorem lineText_reverse (text : Bytes) : lineText text.reverse = identificationText text := by
  rcases List.eq_nil_or_concat text with rfl | ⟨before, last, rfl⟩
  · rfl
  · rw [List.concat_eq_append, List.reverse_concat, identificationText, List.getLast?_concat,
      List.dropLast_concat]
    unfold lineText
    congr 1
    split
    · next rest heq =>
      obtain ⟨rfl, rfl⟩ := List.cons.inj heq
      rw [if_pos rfl, List.reverse_reverse]
    · next hother =>
      have hlast : some last ≠ some 0x0D := by
        intro heq
        exact hother before.reverse (by rw [Option.some.inj heq])
      rw [if_neg hlast, List.reverse_cons, List.reverse_reverse]

/-- A limit of zero admits what a limit of one admits. -/
theorem cutLine_pred (limit : Nat) (input : Bytes) :
    cutLine (limit - 1 + 1) input = cutLine limit input := by
  have hlimit : max (limit - 1 + 1) 1 = max limit 1 := by omega
  simp only [cutLine, hlimit]

/-- What reading an identification line gives, as the bytes are cut. -/
def identificationRead (transport : Transport) (counted : Nat) :
    LineCut → Except Fault (Option String) × Transport
  | .line text rest => (.ok (some (identificationText text)), transport.advance rest counted)
  | .tooLong length rest =>
    (.error (.identificationTooLong length), transport.advance rest counted)
  | .incomplete => (endOfRead transport.stream.ending, transport.advance [] counted)

/-- **An identification line** is read as it is cut off the bytes. -/
theorem readIdentification_alike (transport : Transport) (limit : Nat) :
    ∃ counted, Alike Recut (transport.readIdentification limit)
      (transport.identificationRead counted (cutLine limit transport.stream.pending)) := by
  obtain ⟨counted, hread⟩ := transport.readLineBytes_alike [] (limit - 1)
  rw [cutLine_pred] at hread
  refine ⟨counted, ?_⟩
  unfold readIdentification
  generalize transport.readLineBytes [] (limit - 1) = read,
    cutLine limit transport.stream.pending = cut at hread ⊢
  cases cut with
  | line text rest =>
    simp only [lineRead, List.append_nil] at hread
    cases hread with
    | mk _ hafter =>
      simp only [lineText_reverse]
      exact .mk _ hafter
  | tooLong length rest =>
    simp only [lineRead, List.length_nil, Nat.zero_add] at hread
    cases hread with
    | mk _ hafter => exact .mk _ hafter
  | incomplete =>
    simp only [lineRead, identificationRead] at hread ⊢
    rcases alike_endOfRead hread with ⟨last, hlast, hread, hend⟩ | ⟨fault, last, hlast, hread, hend⟩
    · rw [hread, hend]
      exact .mk _ hlast
    · rw [hread, hend]
      exact .mk _ hlast

/-! ## Frames -/

/-- What reading a packet gives, as the bytes are cut. Only a packet moves the sequence number. -/
def packetRead (transport : Transport) (counted : Nat) :
    FrameCut → Except Fault (Option Inbound) × Transport
  | .packet packet rest =>
    (.ok (some ⟨transport.packetsReceived, packet⟩),
      { transport.advance rest counted with packetsReceived := transport.packetsReceived + 1 })
  | .refused fault rest => (.error fault, transport.advance rest counted)
  | .incomplete => (endOfRead transport.stream.ending, transport.advance [] counted)

/-- The body behind a header: all of it, or the end of the bytes. -/
theorem readBody_alike (transport : Transport) (header : Header) :
    Alike Recut (transport.readBody header)
      (if transport.stream.unread < header.bodyLength then
        (endOfRead transport.stream.ending, transport.advance [] 0)
      else
        let rest := transport.stream.pending.drop header.bodyLength
        let after := transport.advance rest header.bodyLength
        match Packet.ofBody header (transport.stream.pending.take header.bodyLength) with
        | .error fault => (.error fault, after)
        | .ok packet => (.ok (some ⟨transport.packetsReceived, packet⟩),
            { after with packetsReceived := transport.packetsReceived + 1 })) := by
  unfold readBody
  by_cases hshort : transport.stream.unread < header.bodyLength
  · have hread := readExact_of_lt hshort
    rw [if_pos hshort]
    rcases alike_endOfRead hread with ⟨last, hlast, hread, hend⟩ | ⟨fault, last, hlast, hread, hend⟩
    · rw [hread, hend]
      exact .mk _ hlast
    · rw [hread, hend]
      exact .mk _ hlast
  · have hread := readExact_of_le (Nat.le_of_not_lt hshort)
    rw [if_neg hshort]
    generalize transport.readExact header.bodyLength = read at hread ⊢
    cases hread with
    | mk _ hafter =>
      simp only
      cases Packet.ofBody header (transport.stream.pending.take header.bodyLength) with
      | error fault => exact .mk _ hafter
      | ok packet =>
        simp only [hafter.packetsReceived]
        obtain ⟨stream, rfl, hstream⟩ := hafter
        exact .mk _ ⟨stream, rfl, hstream⟩

theorem cutFrame_of_short {input : Bytes} (h : input.length < Header.size) (limit : Nat) :
    cutFrame limit input = .incomplete := by
  unfold cutFrame
  split
  · simp only [List.length_cons, Header.size] at h
    omega
  · rfl

/-- A frame whose header is there is cut off by the length that it declares. -/
theorem cutFrame_of_size {input : Bytes} (h : Header.size ≤ input.length) (limit : Nat) :
    cutFrame limit input = cutDeclared limit (Frame.total input) input := by
  obtain ⟨a, b, c, d, padding, body, rfl⟩ := Frame.exists_header h
  rw [Frame.total_cons]
  rfl

/-- A packet that is cut off is as long as its header declares, and the header was not refused. -/
theorem totalLength_of_cutFrame {limit : Nat} {input rest : Bytes} {packet : Packet}
    (h : cutFrame limit input = .packet packet rest) :
    packet.totalLength ≤ limit ∧ packet.totalLength < UInt32.size := by
  have hsize : Header.size ≤ input.length := by
    refine Nat.le_of_not_lt fun hshort => ?_
    rw [cutFrame_of_short hshort] at h
    cases h
  rw [cutFrame_of_size hsize, cutDeclared] at h
  split at h
  · cases h
  · next hlimit =>
    split at h
    · cases h
    · split at h
      · next found hframe =>
        cases h
        obtain ⟨hcomplete, rfl⟩ := Packet.ofFrame_eq_ok_iff.mp hframe
        rw [Packet.totalLength_content hcomplete, Frame.total_take (Nat.le_add_right _ _)]
        exact ⟨Nat.le_of_not_lt hlimit, Frame.total_lt_size hsize⟩
      · cases h

/-- A frame whose header is there, cut off by its header and its body. -/
theorem cutFrame_cons {a b c d padding : UInt8} {header : Header}
    (hheader : Header.ofBytes a b c d padding = header) (limit : Nat) (body : Bytes) :
    cutFrame limit (a :: b :: c :: d :: padding :: body) =
      if limit < header.total.toNat then
        .refused (.packetTooLarge header.total.toNat limit) body
      else if body.length < header.bodyLength then .incomplete
      else
        match Packet.ofBody header (body.take header.bodyLength) with
        | .error fault => .refused fault (body.drop header.bodyLength)
        | .ok packet => .packet packet (body.drop header.bodyLength) := by
  have htotal : decodeWord a b c d = header.total := congrArg Header.total hheader
  have hsize : Header.size + (header.total.toNat - 1) = header.bodyLength + 5 := Nat.add_comm _ _
  show cutDeclared limit (decodeWord a b c d).toNat _ = _
  rw [htotal]
  unfold cutDeclared
  simp only [hsize]
  by_cases hlarge : limit < header.total.toNat
  · rw [if_pos hlarge, if_pos hlarge]
    rfl
  · rw [if_neg hlarge, if_neg hlarge]
    by_cases hshort : body.length < header.bodyLength
    · rw [if_pos hshort]
      exact if_pos (Nat.add_lt_add_right hshort 5)
    · have htake : (a :: b :: c :: d :: padding :: body).take (header.bodyLength + 5)
          = a :: b :: c :: d :: padding :: body.take header.bodyLength := rfl
      have hdrop : (a :: b :: c :: d :: padding :: body).drop (header.bodyLength + 5)
          = body.drop header.bodyLength := rfl
      have hall : (body.take header.bodyLength).length = header.bodyLength := by
        rw [List.length_take]
        omega
      have hthere : ¬ (a :: b :: c :: d :: padding :: body).length < header.bodyLength + 5 :=
        Nat.not_lt.mpr (Nat.add_le_add_right (Nat.le_of_not_lt hshort) 5)
      rw [if_neg hshort, if_neg hthere, htake, hdrop, Packet.ofFrame_of_bodyLength hheader hall]
      cases Packet.ofBody header (body.take header.bodyLength) <;> rfl

theorem readPacket_of_short {transport : Transport} (h : transport.stream.unread < Header.size)
    (limit : Nat) :
    Alike Recut (transport.readPacket limit)
      (endOfRead transport.stream.ending, transport.advance [] 0) := by
  have hread := readExact_of_lt h
  unfold readPacket
  rcases alike_endOfRead hread with ⟨last, hlast, hread, hend⟩ | ⟨fault, last, hlast, hread, hend⟩
  · rw [hread, hend]
    exact .mk _ hlast
  · rw [hread, hend]
    exact .mk _ hlast

/-- Behind a header that is there, the packet is refused or its body is read. -/
theorem readPacket_of_header {transport : Transport} {a b c d padding : UInt8} {header : Header}
    {body : Bytes} (hheader : Header.ofBytes a b c d padding = header)
    (h : transport.stream.pending = a :: b :: c :: d :: padding :: body) (limit : Nat) :
    Alike Recut (transport.readPacket limit)
      (if limit < header.total.toNat then
        (.error (.packetTooLarge header.total.toNat limit), transport.advance body Header.size)
      else (transport.advance body Header.size).readBody header) := by
  have hthere : Header.size ≤ transport.stream.unread := by
    rw [Stream.unread, h]
    exact Nat.le_add_left 5 body.length
  have hread := readExact_of_le hthere
  rw [h] at hread
  unfold readPacket
  generalize transport.readExact Header.size = read at hread ⊢
  cases hread with
  | mk _ hafter =>
    simp only [Header.size, List.take_succ_cons, List.take_zero, hheader]
    by_cases hlarge : limit < header.total.toNat
    · rw [if_pos hlarge, if_pos hlarge]
      exact .mk _ hafter
    · rw [if_neg hlarge, if_neg hlarge]
      exact hafter.readBody header

/-- **A packet** is read as its frame is cut off the bytes. -/
theorem readPacket_alike (transport : Transport) (limit : Nat) :
    ∃ counted, Alike Recut (transport.readPacket limit)
      (transport.packetRead counted (cutFrame limit transport.stream.pending)) := by
  by_cases hshort : transport.stream.unread < Header.size
  · rw [cutFrame_of_short hshort]
    exact ⟨0, readPacket_of_short hshort limit⟩
  · have hlong : ¬ transport.stream.pending.length < 5 := hshort
    rcases hinput : transport.stream.pending with
      _ | ⟨a, _ | ⟨b, _ | ⟨c, _ | ⟨d, _ | ⟨padding, body⟩⟩⟩⟩⟩
    case cons.cons.cons.cons.cons =>
      obtain ⟨header, hheader⟩ : ∃ header, Header.ofBytes a b c d padding = header := ⟨_, rfl⟩
      have hread := readPacket_of_header hheader hinput limit
      have hbody := (transport.advance body Header.size).readBody_alike header
      rw [pending_advance, Stream.unread, pending_advance] at hbody
      rw [cutFrame_cons hheader]
      by_cases hlarge : limit < header.total.toNat
      · rw [if_pos hlarge] at hread ⊢
        exact ⟨Header.size, hread⟩
      · rw [if_neg hlarge] at hread ⊢
        have hall := alike_trans hread hbody
        simp only [advance_advance] at hall
        by_cases hcut : body.length < header.bodyLength
        · rw [if_pos hcut] at hall ⊢
          exact ⟨Header.size, hall⟩
        · rw [if_neg hcut] at hall ⊢
          refine ⟨Header.size + header.bodyLength, ?_⟩
          generalize Packet.ofBody header (body.take header.bodyLength) = decoded at hall ⊢
          cases decoded with
          | error fault => exact hall
          | ok packet => exact hall
    all_goals
      rw [hinput] at hlong
      exact absurd (by simp only [List.length_cons, List.length_nil]; omega) hlong

end Transport
end MockSsh
