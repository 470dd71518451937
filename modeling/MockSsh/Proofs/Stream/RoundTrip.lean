import MockSsh.Proofs.Stream.Faultless

/-!
Frames mark their own ends. A reader that stands before a complete frame takes exactly that frame,
whatever follows it (`readPacket_of_complete`); so it takes a sequence of frames one by one
(`readPackets_of_complete`), and packets that were written one after the other are read back to the
last one (`readPackets_of_written`).
-/
namespace MockSsh
namespace Transport

/-! ## Packet after packet -/

/-- Writes packets in order, up to the first that fails. -/
def writePackets : List Packet → Transport → Except Fault Unit × Transport
  | [], transport => (.ok (), transport)
  | packet :: rest, transport =>
    match transport.writePacket packet with
    | (.error fault, transport) => (.error fault, transport)
    | (.ok (), transport) => writePackets rest transport

/-- What reading packets gives as long as any come. -/
structure Intake where
  inbounds : List Inbound
  /-- The fault that stopped the reader; nothing where the peer was gone. -/
  fault : Option Fault
  transport : Transport

/-- Reads packets as long as any come. -/
def readPackets (transport : Transport) (limit : Nat) : Intake :=
  match _ : transport.readPacket limit with
  | (.error fault, after) => ⟨[], some fault, after⟩
  | (.ok none, after) => ⟨[], none, after⟩
  | (.ok (some inbound), after) =>
    let later := readPackets after limit
    { later with inbounds := inbound :: later.inbounds }
termination_by transport.stream.unread
decreasing_by exact unread_readPacket ‹_›

theorem readPackets_of_none {transport after : Transport} {limit : Nat}
    (h : transport.readPacket limit = (.ok none, after)) :
    transport.readPackets limit = ⟨[], none, after⟩ := by
  rw [readPackets]
  split <;> simp_all

theorem readPackets_of_some {transport after : Transport} {limit : Nat} {inbound : Inbound}
    (h : transport.readPacket limit = (.ok (some inbound), after)) :
    transport.readPackets limit =
      { after.readPackets limit with inbounds := inbound :: (after.readPackets limit).inbounds } := by
  rw [readPackets]
  split <;> simp_all

/-! ## Reading frames -/

/-- **A complete frame** within the limit is taken as a whole, and nothing behind it. -/
theorem readPacket_of_complete {transport : Transport} {frame rest : Bytes} {limit : Nat}
    (hframe : Frame.Complete frame) (hlimit : Frame.total frame ≤ limit)
    (h : transport.stream.pending = frame ++ rest) :
    Alike Recut (transport.readPacket limit)
      (.ok (some ⟨transport.packetsReceived, Frame.content frame⟩),
        { transport.advance rest frame.length with
          packetsReceived := transport.packetsReceived + 1 }) := by
  have hwhole := Packet.ofFrame_of_complete hframe
  obtain ⟨a, b, c, d, padding, number, tail, rfl, htotal, -, -⟩ := hframe.exists_number
  obtain ⟨header, hheader⟩ : ∃ header, Header.ofBytes a b c d padding = header := ⟨_, rfl⟩
  have hdeclared : header.total.toNat
      = Frame.total (a :: b :: c :: d :: padding :: number :: tail) := by
    rw [Frame.total_cons, ← hheader]
    rfl
  have hbody : header.bodyLength = (number :: tail).length := by
    rw [Header.bodyLength, hdeclared, ← htotal]
    rfl
  rw [Packet.ofFrame_of_bodyLength hheader hbody.symm] at hwhole
  -- the header is read first, and then as many bytes as it declares
  have hread := readPacket_of_header hheader h limit
  rw [if_neg (by omega)] at hread
  have hrest := (transport.advance (number :: tail ++ rest) Header.size).readBody_alike header
  have hthere : ¬ (number :: tail ++ rest).length < (number :: tail).length := by
    rw [List.length_append]
    omega
  rw [Stream.unread, pending_advance, hbody, if_neg hthere] at hrest
  simp only [List.take_left, List.drop_left, hwhole, advance_advance] at hrest
  have hcounted : Header.size + (number :: tail).length
      = (a :: b :: c :: d :: padding :: number :: tail).length := Nat.add_comm _ _
  rw [hcounted] at hrest
  exact alike_trans hread hrest

/-- **What a limit lets through**: a packet can be read under it exactly if its length is within the
limit and fits into the length field. -/
theorem exists_readPacket_iff {limit : Nat} {inbound : Inbound} :
    (∃ transport after : Transport, transport.readPacket limit = (.ok (some inbound), after)) ↔
      inbound.packet.totalLength ≤ limit ∧ inbound.packet.totalLength < UInt32.size := by
  constructor
  · rintro ⟨transport, after, h⟩
    obtain ⟨counted, hread⟩ := transport.readPacket_alike limit
    rw [h] at hread
    cases hcut : cutFrame limit transport.stream.pending with
    | packet packet rest =>
      rw [hcut] at hread
      cases hread
      exact totalLength_of_cutFrame hcut
    | refused fault rest =>
      rw [hcut] at hread
      cases hread
    | incomplete =>
      rw [hcut] at hread
      rcases alike_endOfRead hread with ⟨last, -, hnone, -⟩ | ⟨fault, last, -, hfault, -⟩
      · cases hnone
      · cases hfault
  · rintro ⟨hlimit, hsize⟩
    let transport : Transport :=
      { ofStream (.ofInput inbound.packet.encode) with packetsReceived := inbound.sequence }
    have hpending : transport.stream.pending = inbound.packet.encode ++ [] := rfl
    have hwithin : Frame.total inbound.packet.encode ≤ limit := by
      rw [Packet.total_encode, Nat.mod_eq_of_lt hsize]
      exact hlimit
    have hread := readPacket_of_complete (Packet.complete_encode_iff.mpr hsize) hwithin hpending
    generalize hanswer : transport.readPacket limit = answer at hread
    cases hread with
    | @mk _ after _ _ =>
      refine ⟨transport, after, ?_⟩
      rw [hanswer, Packet.content_encode]

/-- Where the bytes have come to an orderly end, no packet comes and nothing is counted. -/
theorem readPacket_of_pending_nil {transport : Transport}
    (hend : transport.stream.ending = none) (h : transport.stream.pending = []) (limit : Nat) :
    Alike Recut (transport.readPacket limit) (.ok none, transport.advance [] 0) := by
  have hshort : transport.stream.unread < Header.size := by
    rw [Stream.unread, h]
    decide
  have hread := readPacket_of_short hshort limit
  rwa [hend] at hread

/-- **A sequence of complete frames** is read frame by frame; the induction is on the frames. -/
theorem readPackets_of_complete {limit : Nat} {frames : List Bytes}
    (hframes : ∀ frame ∈ frames, Frame.Complete frame ∧ Frame.total frame ≤ limit)
    {transport : Transport} (hend : transport.stream.ending = none)
    (h : transport.stream.pending = frames.flatten) :
    let read := transport.readPackets limit
    read.inbounds = frames.mapIdx (fun index frame =>
      ⟨transport.packetsReceived + UInt32.ofNat index, Frame.content frame⟩) ∧
    read.fault = none ∧
    read.transport.packetsReceived = transport.packetsReceived + UInt32.ofNat frames.length ∧
    read.transport.bytesRead = transport.bytesRead + frames.flatten.length := by
  induction frames generalizing transport with
  | nil =>
    have hread := readPacket_of_pending_nil hend h limit
    generalize hanswer : transport.readPacket limit = answer at hread
    cases hread with
    | mk _ hafter =>
      obtain ⟨stream, rfl, -⟩ := hafter
      rw [readPackets_of_none hanswer]
      exact ⟨rfl, rfl, (UInt32.add_zero _).symm, rfl⟩
  | cons frame rest ih =>
    obtain ⟨⟨hframe, hlimit⟩, hrest⟩ := List.forall_mem_cons.mp hframes
    rw [List.flatten_cons] at h
    have hread := readPacket_of_complete hframe hlimit h
    generalize hanswer : transport.readPacket limit = answer at hread
    cases hread with
    | @mk _ after _ hafter =>
      have hpending : after.stream.pending = rest.flatten :=
        hafter.stream.pending.trans (pending_advance transport rest.flatten frame.length)
      have hending : after.stream.ending = none := hafter.stream.ending.trans hend
      obtain ⟨hinbounds, hfault, hreceived, hcounted⟩ := ih hrest hending hpending
      obtain ⟨stream, rfl, -⟩ := hafter
      have hsequence (index : Nat) : transport.packetsReceived + 1 + UInt32.ofNat index
          = transport.packetsReceived + UInt32.ofNat (index + 1) := by
        rw [UInt32.ofNat_add, UInt32.add_assoc, UInt32.add_comm 1]
        rfl
      rw [readPackets_of_some hanswer]
      refine ⟨?_, hfault, hreceived.trans (hsequence rest.length), ?_⟩
      · rw [List.mapIdx_cons]
        simp only [hinbounds, hsequence]
        rw [show UInt32.ofNat 0 = 0 from rfl, UInt32.add_zero]
      · rw [List.flatten_cons, List.length_append, ← Nat.add_assoc]
        exact hcounted

/-! ## Reading what was written -/

/-- A session sends its replies as packets are written, and logs them besides. -/
theorem writePackets_eq_sendReplies (peer : String) (packets : List Packet)
    (transport : Transport) :
    transport.writePackets packets =
      ((Session.sendReplies peer packets transport).1,
        (Session.sendReplies peer packets transport).2.1) := by
  induction packets generalizing transport with
  | nil => rfl
  | cons packet rest ih =>
    simp only [writePackets, Session.sendReplies]
    obtain ⟨result, after⟩ := transport.writePacket packet
    cases result with
    | error fault => rfl
    | ok _ => exact ih after

theorem writePackets_of_faultless {transport : Transport} (h : transport.stream.Faultless)
    (packets : List Packet) :
    transport.writePackets packets = (.ok (), transport.sent packets) := by
  rw [writePackets_eq_sendReplies "", sendReplies_of_accepting h.accepting]

/-- **Framing marks its own ends.** Packets of any numbers, payloads and paddings whose lengths fit
into the reader's limit and into the length field are written one after the other without a fault. A
new reader of what was written, however it is cut into chunks, gives the same packets in the same
order, numbered from zero modulo 2^32, and then finds the bytes at their end; it has counted as many
packets and as many bytes as the writer. -/
theorem readPackets_of_written {packets : List Packet} {limit : Nat}
    (hfits : ∀ packet ∈ packets,
      packet.totalLength ≤ limit ∧ packet.totalLength ≤ UInt32.size - 1)
    (incoming : List Bytes) {chunks : List Bytes}
    (hchunks : chunks.flatten
      = ((ofStream (.ofChunks incoming)).writePackets packets).2.stream.written) :
    let wrote := (ofStream (.ofChunks incoming)).writePackets packets
    let read := (ofStream (.ofChunks chunks)).readPackets limit
    wrote.1 = .ok () ∧
    read.inbounds = packets.mapIdx (fun index packet => ⟨UInt32.ofNat index, packet⟩) ∧
    read.fault = none ∧
    wrote.2.packetsSent = read.transport.packetsReceived ∧
    wrote.2.bytesWritten = read.transport.bytesRead := by
  intro wrote read
  have hwrote : wrote = (.ok (), (ofStream (.ofChunks incoming)).sent packets) :=
    writePackets_of_faultless (Stream.faultless_ofChunks incoming) packets
  have hbytes : chunks.flatten = (packets.map Packet.encode).flatten := by
    rw [hchunks, writePackets_of_faultless (Stream.faultless_ofChunks incoming)]
    exact List.flatMap_def
  have hframes : ∀ frame ∈ packets.map Packet.encode,
      Frame.Complete frame ∧ Frame.total frame ≤ limit := by
    intro frame hframe
    obtain ⟨packet, hpacket, rfl⟩ := List.mem_map.mp hframe
    obtain ⟨hlimit, hword⟩ := hfits packet hpacket
    have hfits : packet.totalLength < UInt32.size := Nat.lt_of_le_pred (by decide) hword
    rw [Packet.complete_encode_iff, Packet.total_encode, Nat.mod_eq_of_lt hfits]
    exact ⟨hfits, hlimit⟩
  obtain ⟨hinbounds, hfault, hreceived, hcounted⟩ :=
    @readPackets_of_complete limit _ hframes (ofStream (.ofChunks chunks)) rfl hbytes
  refine ⟨?_, ?_, hfault, ?_, ?_⟩
  · rw [hwrote]
  · apply List.ext_getElem?
    intro index
    simp only [read, hinbounds, List.getElem?_mapIdx, List.getElem?_map, Option.map_map]
    congr 1
    funext packet
    show (⟨0 + UInt32.ofNat index, Frame.content packet.encode⟩ : Inbound) = _
    rw [UInt32.zero_add, Packet.content_encode]
  · rw [hwrote, hreceived, List.length_map]
    rfl
  · rw [hwrote, hcounted, ← List.flatMap_def]
    rfl

/-- A packet with nothing but its number, one as long as the limit with the longest padding, and one
whose payload looks like a frame, read back in pieces that keep to no border. -/
theorem readPackets_of_written_pieces :
    let packets : List Packet :=
      [⟨21, [], 0⟩, ⟨94, List.replicate 10 7, 255⟩, ⟨2, [0, 0, 0, 2, 0, 21], 1⟩]
    let wrote := (ofStream (.ofChunks [])).writePackets packets
    let bytes := wrote.2.stream.written
    let chunks := [bytes.take 3, (bytes.drop 3).take 30, bytes.drop 33]
    let read := (ofStream (.ofChunks chunks)).readPackets 267
    (∀ packet ∈ packets, packet.totalLength ≤ 267 ∧ packet.totalLength ≤ UInt32.size - 1) ∧
    chunks.flatten = bytes ∧
    read.inbounds = [⟨0, ⟨21, [], 0⟩⟩, ⟨1, ⟨94, List.replicate 10 7, 255⟩⟩,
      ⟨2, ⟨2, [0, 0, 0, 2, 0, 21], 1⟩⟩] ∧
    wrote.2.bytesWritten = read.transport.bytesRead := by
  intro packets wrote bytes chunks read
  have hfits : ∀ packet ∈ packets,
      packet.totalLength ≤ 267 ∧ packet.totalLength ≤ UInt32.size - 1 := by decide
  have hchunks : chunks.flatten = bytes := by
    have hlast : (bytes.drop 3).drop 30 = bytes.drop 33 := List.drop_drop
    simp only [chunks, ← hlast, List.flatten_cons, List.flatten_nil, List.append_nil,
      List.take_append_drop]
  obtain ⟨-, hinbounds, -, -, hcounted⟩ := readPackets_of_written hfits [] hchunks
  exact ⟨hfits, hchunks, hinbounds, hcounted⟩

end Transport
end MockSsh
