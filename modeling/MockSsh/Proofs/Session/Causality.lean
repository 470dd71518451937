import MockSsh.Proofs.Session.Refinement

/-!
A session looks no further ahead than it has to. What is cut off the peer's bytes is cut off alike
when more bytes stand behind them (`cutLine_append`, `cutFrame_append`), and only where a line or a
frame is incomplete may more bytes change what comes of it. So a transcript of more bytes goes on
where the transcript of fewer had to wait for the peer, and is the same where it had come to an end
(`Transcript.ofBytes_append`).
-/
namespace MockSsh

variable {κ : Type}

/-! ## Cutting more bytes -/

/-- The same cut with more bytes behind it. -/
def LineCut.before (more : Bytes) : LineCut → LineCut
  | .line text rest => .line text (rest ++ more)
  | .tooLong length rest => .tooLong length (rest ++ more)
  | .incomplete => .incomplete

/-- The same cut with more bytes behind it. -/
def FrameCut.before (more : Bytes) : FrameCut → FrameCut
  | .packet taken rest => .packet taken (rest ++ more)
  | .refused fault rest => .refused fault (rest ++ more)
  | .incomplete => .incomplete

theorem cutLine_append {limit : Nat} {input : Bytes} {cut : LineCut}
    (hcut : cutLine limit input = cut) (h : cut ≠ .incomplete) (more : Bytes) :
    cutLine limit (input ++ more) = cut.before more := by
  subst hcut
  have htext : (input.takeWhile (· != Transport.lineFeed)).length ≤ input.length :=
    (List.takeWhile_prefix _).length_le
  simp only [cutLine, List.takeWhile_append] at h ⊢
  generalize input.takeWhile (· != Transport.lineFeed) = text at h htext ⊢
  by_cases hlong : max limit 1 ≤ text.length
  · -- without a line feed so far, more bytes only make the line longer
    have hmore : max limit 1 ≤ (if text.length = input.length
        then input ++ more.takeWhile (· != Transport.lineFeed) else text).length := by
      split
      · rw [List.length_append]
        omega
      · exact hlong
    rw [if_pos hlong, if_pos hmore, LineCut.before, List.drop_append_of_le_length (by omega)]
  · rw [if_neg hlong] at h ⊢
    by_cases hended : text.length < input.length
    · rw [if_neg (Nat.ne_of_lt hended), if_neg hlong, if_pos hended, LineCut.before,
        List.length_append, if_pos (by omega), List.drop_append_of_le_length hended]
    · rw [if_neg hended] at h
      exact absurd rfl h

theorem cutFrame_append {limit : Nat} {input : Bytes} {cut : FrameCut}
    (hcut : cutFrame limit input = cut) (h : cut ≠ .incomplete) (more : Bytes) :
    cutFrame limit (input ++ more) = cut.before more := by
  subst hcut
  by_cases hheader : input.length < Header.size
  · exact absurd (Transport.cutFrame_of_short hheader limit) h
  have hsize : Header.size ≤ input.length := Nat.le_of_not_lt hheader
  have hmore : Header.size ≤ (input ++ more).length := by
    rw [List.length_append]
    omega
  rw [Transport.cutFrame_of_size hsize] at h ⊢
  rw [Transport.cutFrame_of_size hmore, Frame.total_append hsize]
  -- the declared length is the same, so both cuts branch on it alike
  simp only [cutDeclared] at h ⊢
  generalize Frame.total input = total at h ⊢
  by_cases hlarge : limit < total
  · rw [if_pos hlarge, if_pos hlarge, FrameCut.before, List.drop_append_of_le_length hsize]
  rw [if_neg hlarge] at h ⊢
  by_cases hshort : input.length < Header.size + (total - 1)
  · rw [if_pos hshort] at h
    exact absurd rfl h
  have hthere : Header.size + (total - 1) ≤ input.length := Nat.le_of_not_lt hshort
  rw [if_neg hlarge, if_neg hshort, if_neg (by rw [List.length_append]; omega),
    List.take_append_of_le_length hthere, List.drop_append_of_le_length hthere]
  cases Packet.ofFrame (input.take (Header.size + (total - 1))) <;> rfl

/-! ## Telling more bytes -/

namespace Transcript

/-- A transcript that goes on from another when `more` bytes come. Unless the other one had to wait for
the peer, nothing is added but the bytes that were not looked at. -/
structure Continues (longer told : Transcript κ) (more : Bytes) : Prop where
  line : told.line = none ∨ longer.line = told.line
  replies : told.replies <+: longer.replies
  events : told.events <+: longer.events
  decided : told.ended = .ok .peerClosed ∨ longer = { told with rest := told.rest ++ more }

section Continues

variable {longer told : Transcript κ} {more : Bytes}

/-- Whatever is told goes on from a conversation in which nothing was told yet. -/
theorem continues_waiting (longer : Transcript κ) (packets : Nat) (rest : Bytes)
    (connection : Connection) (dispatcher : Dispatcher κ) (more : Bytes) :
    longer.Continues (stopped (.ok .peerClosed) packets rest connection dispatcher) more :=
  ⟨.inl rfl, List.nil_prefix, List.nil_prefix, .inl rfl⟩

theorem continues_stopped (ended : Except Fault SessionEnd) (packets : Nat) (rest : Bytes)
    (connection : Connection) (dispatcher : Dispatcher κ) (more : Bytes) :
    (stopped ended packets (rest ++ more) connection dispatcher).Continues
      (stopped ended packets rest connection dispatcher) more :=
  ⟨.inl rfl, List.prefix_rfl, List.prefix_rfl, .inr rfl⟩

theorem Continues.answered (h : longer.Continues told more) (replies : List Packet)
    (events : List Event) :
    (longer.answered replies events).Continues (told.answered replies events) more where
  line := h.line
  replies := (List.prefix_append_right_inj replies).mpr h.replies
  events := (List.prefix_append_right_inj events).mpr h.events
  decided := h.decided.imp id fun heq => by
    rw [heq]
    rfl

theorem Continues.greeted (h : longer.Continues told more) (peer line : String) :
    (longer.greeted peer line).Continues (told.greeted peer line) more where
  line := .inr rfl
  replies := h.replies
  events := List.cons_prefix_cons.mpr ⟨rfl, h.events⟩
  decided := h.decided.imp id fun heq => by
    rw [heq]
    rfl

theorem Continues.written (h : longer.Continues told more) (config : Config) :
    told.written config <+: longer.written config := by
  obtain ⟨later, hlater⟩ := h.replies
  rcases h.line with hnone | hline
  · simp only [Transcript.written, hnone, List.nil_prefix]
  · simp only [Transcript.written, hline, ← hlater, List.flatMap_append, ← List.append_assoc]
    split
    · exact List.nil_prefix
    · exact List.prefix_append _ _

end Continues

variable [KeyExchange κ]

/-- The packets in more bytes: the induction is on the number of the bytes that come first. -/
theorem ofPackets_append (limit : Nat) (dispatcher : Dispatcher κ) (connection : Connection)
    (index : Nat) (input more : Bytes) :
    (ofPackets limit dispatcher connection index (input ++ more)).Continues
      (ofPackets limit dispatcher connection index input) more := by
  induction hlength : input.length using Nat.strongRecOn
    generalizing dispatcher connection index input with
  | ind length ih =>
    cases hcut : cutFrame limit input with
    | incomplete =>
      rw [ofPackets_of_incomplete hcut]
      exact continues_waiting _ index [] connection dispatcher more
    | refused fault rest =>
      have hmore := cutFrame_append hcut FrameCut.noConfusion more
      rw [ofPackets_of_refused hcut, ofPackets_of_refused hmore]
      exact continues_stopped (.error fault) index rest connection dispatcher more
    | packet packet rest =>
      have hmore := cutFrame_append hcut FrameCut.noConfusion more
      rw [ofPackets_of_packet hcut, ofPackets_of_packet hmore]
      simp only
      generalize dispatcher.dispatch connection ⟨UInt32.ofNat index, packet⟩ = outcome
      cases outcome.result with
      | error fault => exact (continues_stopped (.error fault) _ rest _ _ more).answered [] _
      | ok answer =>
        obtain ⟨replies, next⟩ := answer
        cases next with
        | proceed =>
          have hless : rest.length < length := by
            rw [← hlength]
            exact length_cutFrame hcut
          exact (ih rest.length hless outcome.dispatcher outcome.connection (index + 1) rest
            rfl).answered replies _
        | peerDisconnected message =>
          exact (continues_stopped (.ok .peerDisconnected) _ rest _ _ more).answered replies _
        | policyDisconnect =>
          exact (continues_stopped (.ok .policyDisconnect) _ rest _ _ more).answered replies _

/-- A whole conversation over more bytes. -/
theorem ofBytes_append (config : Config) (peer : String) (exchange : κ) (input more : Bytes) :
    (ofBytes config peer exchange (input ++ more)).Continues
      (ofBytes config peer exchange input) more := by
  cases hcut : cutLine config.maxIdentificationLength input with
  | incomplete =>
    rw [ofBytes.eq_def _ _ _ input, hcut]
    exact continues_waiting _ 0 [] _ _ more
  | tooLong length rest =>
    have hmore := cutLine_append hcut LineCut.noConfusion more
    simp only [ofBytes, hcut, hmore, LineCut.before]
    exact continues_stopped (.error (.identificationTooLong length)) 0 rest _ _ more
  | line text rest =>
    have hmore := cutLine_append hcut LineCut.noConfusion more
    simp only [ofBytes, hcut, hmore, LineCut.before]
    exact (ofPackets_append config.maxPacketLength (.ofConfig config exchange)
      (.fresh config.channelPolicy peer) 0 rest more).greeted peer (identificationText text)

end Transcript

/-! ## Running over more bytes -/

namespace Session

/-- The peer left before anything else ended the session. -/
def Run.PeerClosed (run : Run κ) : Prop :=
  ∃ report, run.result = .ok report ∧ report.ended = .peerClosed

theorem Run.Shows.peerClosed {run : Run κ} {config : Config} {told : Transcript κ}
    (h : run.Shows config told) (hended : told.ended = .ok .peerClosed) : run.PeerClosed := by
  have hreport : ∃ report, told.report = .ok report ∧ report.ended = .peerClosed := by
    rw [Transcript.report, hended]
    exact ⟨_, rfl, rfl⟩
  rwa [← h.result] at hreport

/-- **Causality.** Whatever the settings and the key exchange, and however the bytes are cut into
chunks: what a session writes and logs on some bytes of the peer is the beginning of what it writes
and logs when more bytes come behind them. And unless all that ended it was that no more bytes came,
it ends alike over the more bytes, with the same report or fault, writes and logs exactly the same, and
leaves all of the later bytes unread behind those that it had left before. -/
theorem run_append [KeyExchange κ] (config : Config) (peer : String) (exchange : κ)
    {chunks longer : List Bytes} {later : Bytes} (h : longer.flatten = chunks.flatten ++ later) :
    let run (chunks : List Bytes) : Run κ := (fresh (.ofChunks chunks) config peer exchange).run
    let stream (chunks : List Bytes) : Stream := (run chunks).session.transport.stream
    ((stream chunks).written <+: (stream longer).written ∧
      (run chunks).events <+: (run longer).events) ∧
    ((run chunks).PeerClosed ∨
      (run longer).result = (run chunks).result ∧
      (stream longer).written = (stream chunks).written ∧
      (run longer).events = (run chunks).events ∧
      (stream longer).pending = (stream chunks).pending ++ later) := by
  intro run stream
  have hshort : (run chunks).Shows config _ := run_shows config peer exchange chunks
  have hlong : (run longer).Shows config _ := run_shows config peer exchange longer
  have hcontinues := Transcript.ofBytes_append config peer exchange chunks.flatten later
  rw [h] at hlong
  generalize Transcript.ofBytes config peer exchange chunks.flatten = told at hshort hcontinues
  refine ⟨⟨?_, ?_⟩, ?_⟩
  · simp only [stream, hshort.written, hlong.written]
    exact hcontinues.written config
  · rw [hshort.events, hlong.events]
    exact hcontinues.events
  · rcases hcontinues.decided with hwaiting | hsame
    · exact .inl (hshort.peerClosed hwaiting)
    · right
      rw [hsame] at hlong
      exact ⟨hlong.result.trans hshort.result.symm, hlong.written.trans hshort.written.symm,
        hlong.events.trans hshort.events.symm,
        hlong.pending.trans (congrArg (· ++ later) hshort.pending.symm)⟩

/-- A goodbye behind a reply, cut in its header, with a byte behind it and then the start of another
packet. -/
theorem run_append_disconnected :
    let first : List Bytes :=
      [[83, 83, 72, 45, 10, 0, 0], [0, 6, 4, 21, 0, 0, 0, 0, 0, 0, 0, 2, 0, 1, 9]]
    let longer : List Bytes := [first.flatten, [0, 0], [0, 6]]
    let run (chunks : List Bytes) : Run Cleartext :=
      (fresh (.ofChunks chunks) .default "peer" Cleartext.fresh).run
    longer.flatten = first.flatten ++ [0, 0, 0, 6] ∧
      (run longer).result.toOption = some ⟨.peerDisconnected, 2, 1, false, some "SSH-"⟩ ∧
      (run longer).session.transport.stream.pending = [9, 0, 0, 0, 6] := by
  intro first longer run
  have hbytes : longer.flatten = first.flatten ++ [0, 0, 0, 6] := rfl
  have hreport : (run first).result.toOption
      = some ⟨.peerDisconnected, 2, 1, false, some "SSH-"⟩ := by decide +kernel
  have hpending : (run first).session.transport.stream.pending = [9] := by decide +kernel
  have hended : ¬ (run first).PeerClosed := by
    rintro ⟨report, hresult, hclosed⟩
    rw [hresult] at hreport
    cases hreport
    cases hclosed
  obtain ⟨-, hdecided⟩ := run_append .default "peer" Cleartext.fresh hbytes
  obtain ⟨hsame, -, -, hleft⟩ := hdecided.resolve_left hended
  refine ⟨hbytes, ?_, hleft.trans (congrArg (· ++ [0, 0, 0, 6]) hpending)⟩
  exact (congrArg Except.toOption hsame).trans hreport

end Session
end MockSsh
