import MockSsh.Live
import MockSsh.Proofs.Session.Faults

/-!
A session whose input is still arriving does what it would do if all of it were there. It waits exactly
as long as the bytes that have come are too few for the reads of the next turn (`ready_iff_fed`); so a
turn that is taken finds its bytes, and more bytes behind them do not change it (`turn_entire`). Arrival
by arrival, the session comes to the same end, and what it has sent by then is what a run over the whole
input writes (`Live.attend_as_run`). At no time does it hold back what that run has written by then
(`Live.sent_prefix_of_run`).
-/
namespace MockSsh

/-! ## Readers that find their bytes -/

namespace Reading

variable {α : Type}

/-- The bytes are enough for every read that the reader makes. -/
def Fed : Reading α → Bytes → Prop
  | give _, _ => True
  | ask size next, input => size ≤ input.length ∧ (next (input.take size)).Fed (input.drop size)

end Reading

theorem lineReady_cons {byte : UInt8} (hbyte : byte ≠ Transport.lineFeed) (allowed : Nat)
    (rest : Bytes) : lineReady (allowed + 2) (byte :: rest) = lineReady (allowed + 1) rest := by
  have hother : (Transport.lineFeed == byte) = false := by simpa using Ne.symm hbyte
  have hlimit : (max 1 (allowed + 2) ≤ rest.length + 1) = (max 1 (allowed + 1) ≤ rest.length) :=
    propext (by omega)
  simp only [lineReady, List.contains_cons, hother, Bool.false_or, List.length_cons, hlimit]

/-- No line is allowed less than its first byte. -/
theorem lineReady_pred (limit : Nat) (arrived : Bytes) :
    lineReady (limit - 1 + 1) arrived = lineReady limit arrived := by
  have hlimit : max 1 (limit - 1 + 1) = max 1 limit := by omega
  rw [lineReady, lineReady, hlimit]

/-- The bytes hold a line, or too many for one, exactly if reading a line finds all that it asks for. -/
theorem lineReady_iff_fed (allowed : Nat) (seen input : Bytes) :
    lineReady (allowed + 1) input = true ↔ (Transport.lineReading allowed seen).Fed input := by
  induction allowed generalizing seen input with
  | zero =>
    cases input with
    | nil => simp [lineReady, Transport.lineReading, Reading.Fed]
    | cons byte rest => simp [lineReady, Transport.lineReading, Reading.Fed]
  | succ allowed ih =>
    cases input with
    | nil => simp [lineReady, Transport.lineReading, Reading.Fed]
    | cons byte rest =>
      by_cases hbyte : byte = Transport.lineFeed
      · simp [lineReady, Transport.lineReading, Reading.Fed, hbyte]
      · rw [lineReady_cons hbyte, ih (byte :: seen) rest]
        simp [Transport.lineReading, Reading.Fed, hbyte]

/-- The bytes hold a frame, or a header that is refused, exactly if reading a packet finds all that it
asks for. -/
theorem frameReady_iff_fed (limit : Nat) (input : Bytes) :
    frameReady limit input = true ↔ (Transport.packetReading limit).Fed input := by
  by_cases hshort : input.length < Header.size
  · have hnot : ¬ (Transport.packetReading limit).Fed input := fun h => absurd h.1 (by omega)
    refine iff_of_false ?_ hnot
    unfold frameReady
    split
    · simp only [List.length_cons, Header.size] at hshort
      omega
    · exact Bool.false_ne_true
  · obtain ⟨a, b, c, d, padding, body, rfl⟩ := Frame.exists_header (Nat.le_of_not_lt hshort)
    have htotal : Frame.total [a, b, c, d, padding] = (decodeWord a b c d).toNat :=
      Frame.total_cons a b c d [padding]
    by_cases hlarge : limit < (decodeWord a b c d).toNat
    · simp [frameReady, Transport.packetReading, Reading.Fed, Header.ofBytes, Header.size, htotal,
        hlarge]
    · simp [frameReady, Transport.packetReading, Reading.Fed, Header.ofBytes, Header.size, htotal,
        hlarge, Header.bodyLength]

/-! ## The whole input -/

namespace Stream

/-- The stream as it is when all of the input is there: with what was `sent` in front of what has been
written since, with `more` behind the bytes that have come, and with the end behind that. -/
def entire (sent more : Bytes) (ending : Option StreamFault) (stream : Stream) : Stream :=
  { stream with
    chunks := stream.chunks ++ [more]
    ending
    written := sent ++ stream.written }

/-- Nothing more comes behind the bytes that are there. -/
structure Over (stream : Stream) (more : Bytes) (ending : Option StreamFault) : Prop where
  more : more = []
  ending : stream.ending = ending

variable {sent more : Bytes} {ending : Option StreamFault}

theorem unseen_entire (sent more : Bytes) (ending : Option StreamFault) :
    Unseen (entire sent more ending) :=
  unseen_input (· ++ [more]) (fun _ => ending) sent

theorem pending_entire (stream : Stream) :
    (stream.entire sent more ending).pending = stream.pending ++ more := by
  simp [entire, pending]

/-- A read gives the same over the whole input if it finds its bytes, or if there is no more. -/
theorem read_entire (sent : Bytes) {stream : Stream} {n : Nat}
    (h : n ≤ stream.unread ∨ stream.Over more ending) :
    Alike Recut ((stream.entire sent more ending).read n)
      ((stream.read n).1, (stream.read n).2.entire sent more ending) := by
  obtain ⟨hgiven, hrest⟩ := stream.read_eq n
  obtain ⟨hgivenAll, hrestAll⟩ := (stream.entire sent more ending).read_eq n
  have hpending : (stream.entire sent more ending).pending = stream.pending ++ more :=
    pending_entire stream
  apply Alike.of_eq
  · rw [hgiven, hgivenAll, unread, hpending]
    rcases h with hthere | hover
    · rw [if_pos hthere, if_pos (by rw [List.length_append]; exact Nat.le_add_right_of_le hthere),
        List.take_append_of_le_length hthere]
    · rw [hover.more, List.append_nil]
      rfl
  · refine ⟨((stream.entire sent more ending).read n).2.chunks, ?_, ?_⟩
    · rw [read_snd, read_snd stream]
      rfl
    · show ((stream.entire sent more ending).read n).2.pending
        = ((stream.read n).2.entire sent more ending).pending
      rw [hrestAll, hpending, pending_entire, hrest]
      rcases h with hthere | hover
      · exact List.drop_append_of_le_length hthere
      · rw [hover.more, List.append_nil, List.append_nil]

end Stream

namespace Transport

/-- The same transport over the stream with all of the input. -/
def entire (sent more : Bytes) (ending : Option StreamFault) (transport : Transport) : Transport :=
  transport.changed (Stream.entire sent more ending) 0

variable {sent more : Bytes} {ending : Option StreamFault} {transport : Transport}

theorem readExact_entire (sent : Bytes) {n : Nat}
    (h : n ≤ transport.stream.unread ∨ transport.stream.Over more ending) :
    Alike Recut ((transport.entire sent more ending).readExact n)
      ((transport.readExact n).1, (transport.readExact n).2.entire sent more ending) := by
  have hread := Stream.read_entire sent h
  have hgiven := (transport.stream.read_eq n).1
  have hafter := (transport.stream.drained_read n).ending
  unfold readExact
  rw [show (transport.entire sent more ending).stream = transport.stream.entire sent more ending
    from rfl]
  generalize transport.stream.read n = read, (transport.stream.entire sent more ending).read n = all
    at hread hgiven hafter ⊢
  obtain ⟨given, after⟩ := read
  cases hread with
  | mk given hlast =>
    cases given with
    | some bytes => exact .mk _ ⟨_, rfl, hlast⟩
    | none =>
      -- only where there is no more a read may find too few bytes
      have hover : transport.stream.Over more ending := by
        refine h.resolve_left fun hthere => ?_
        rw [if_pos hthere] at hgiven
        cases hgiven
      have hended : after.ending = ending := hafter.trans hover.ending
      simp only [hlast.ending, hended]
      exact .mk _ ⟨_, rfl, hlast⟩

theorem readExact_some {n : Nat} {bytes : Bytes} {after : Transport}
    (h : transport.readExact n = (.ok (some bytes), after)) :
    bytes = transport.stream.pending.take n ∧
      after.stream.pending = transport.stream.pending.drop n := by
  have hthere : n ≤ transport.stream.unread := by
    have htaken := (unread_readExact h).2
    omega
  have hseen := seen_of_alike (readExact_of_le hthere)
  rw [h] at hseen
  simp only [Prod.mk.injEq, Except.ok.injEq, Option.some.injEq, pending_advance] at hseen
  exact ⟨hseen.1, hseen.2.1⟩

/-- A reader that finds its bytes, or after which no more comes, does not notice the rest. -/
theorem run_entire {α : Type} (reading : Reading α) (sent : Bytes)
    (h : reading.Fed transport.stream.pending ∨ transport.stream.Over more ending) :
    Alike Recut (reading.run (transport.entire sent more ending))
      ((reading.run transport).1, (reading.run transport).2.entire sent more ending) := by
  induction reading generalizing transport with
  | give answer => exact .mk _ (.refl _)
  | ask size next ih =>
    have hread := readExact_entire sent (h.imp And.left id)
    have hdrained := transport.drained_readExact size
    rw [Reading.run, Reading.run]
    generalize hgiven : transport.readExact size = read at hread hdrained ⊢
    generalize (transport.entire sent more ending).readExact size = all at hread ⊢
    obtain ⟨answer, after⟩ := read
    cases hread with
    | mk _ hlast =>
      rcases answer with fault | _ | bytes
      · exact .mk _ hlast
      · exact .mk _ hlast
      · obtain ⟨hbytes, hrest⟩ := readExact_some hgiven
        refine alike_trans ((next bytes).run_recut hlast) (ih bytes ?_)
        rw [hbytes, hrest]
        exact h.imp And.right fun hover => ⟨hover.more, hdrained.ending.trans hover.ending⟩

theorem readIdentification_entire (limit : Nat) (sent : Bytes)
    (h : (lineReading (limit - 1) []).Fed transport.stream.pending ∨
      transport.stream.Over more ending) :
    Alike Recut ((transport.entire sent more ending).readIdentification limit)
      ((transport.readIdentification limit).1,
        (transport.readIdentification limit).2.entire sent more ending) := by
  have hrun := run_entire (lineReading (limit - 1) []) sent h
  rw [readIdentification, readIdentification, readLineBytes_eq_reading, readLineBytes_eq_reading]
  generalize (lineReading (limit - 1) []).run transport = read,
    (lineReading (limit - 1) []).run (transport.entire sent more ending) = all at hrun ⊢
  obtain ⟨answer, after⟩ := read
  cases hrun with
  | mk _ hafter => rcases answer with _ | _ | _ | _ <;> exact .mk _ hafter

theorem readPacket_entire (limit : Nat) (sent : Bytes)
    (h : (packetReading limit).Fed transport.stream.pending ∨
      transport.stream.Over more ending) :
    Alike Recut ((transport.entire sent more ending).readPacket limit)
      ((transport.readPacket limit).1,
        (transport.readPacket limit).2.entire sent more ending) := by
  have hrun := run_entire (packetReading limit) sent h
  rw [readPacket_eq_reading, readPacket_eq_reading]
  generalize (packetReading limit).run transport = read,
    (packetReading limit).run (transport.entire sent more ending) = all at hrun ⊢
  obtain ⟨answer, after⟩ := read
  cases hrun with
  | mk _ hafter =>
    rcases answer with _ | _ | _ | _
    · exact .mk _ hafter
    · exact .mk _ hafter
    · exact .mk _ hafter
    · obtain ⟨stream, rfl, hstream⟩ := hafter
      exact .mk _ ⟨stream, rfl, hstream⟩

end Transport

/-! ## One turn -/

namespace Session

variable {κ : Type}

/-- The same session over the stream with all of the input. -/
def entire (sent more : Bytes) (ending : Option StreamFault) (session : Session κ) : Session κ :=
  session.changed (Stream.entire sent more ending) 0

/-- The same turn over the stream with all of the input. -/
def Turn.entire (sent more : Bytes) (ending : Option StreamFault) (turn : Turn κ) : Turn κ :=
  turn.changed (Stream.entire sent more ending) 0

/-- The bytes that have come are enough for every read of the next turn. -/
def Fed (session : Session κ) : Prop :=
  let arrived := session.transport.stream.pending
  match session.state with
  | .closed => True
  | .versionExchange =>
    (Transport.lineReading (session.config.maxIdentificationLength - 1) []).Fed arrived
  | .packetLoop => (Transport.packetReading session.config.maxPacketLength).Fed arrived

/-- **A session is ready** exactly if the next turn finds all the bytes that it asks for. -/
theorem ready_iff_fed (session : Session κ) : session.ready = true ↔ session.Fed := by
  unfold ready Fed
  cases session.state with
  | closed => exact iff_of_true rfl trivial
  | versionExchange =>
    simp only
    rw [← lineReady_pred]
    exact lineReady_iff_fed _ [] _
  | packetLoop => exact frameReady_iff_fed _ _

variable [KeyExchange κ] {sent more : Bytes} {ending : Option StreamFault}

/-- **A turn that finds its bytes** does what it does when all of the input is there, and so does a
turn of a session to which nothing more comes. -/
theorem turn_entire {session : Session κ}
    (h : session.ready = true ∨ session.transport.stream.Over more ending) :
    (session.entire sent more ending).turn.Alike (session.turn.entire sent more ending) := by
  have hunseen := Stream.unseen_entire sent more ending
  rw [ready_iff_fed] at h
  cases hstate : session.state with
  | closed =>
    rw [turn, turn, hstate, show (session.entire sent more ending).state = .closed from hstate]
    exact .mk _ _ ⟨_, rfl, .refl _⟩
  | versionExchange =>
    simp only [Fed, hstate] at h
    have hread := Transport.readIdentification_entire _ sent h
    rw [turn_of_versionExchange hstate, Turn.entire, ← greet_changed hunseen]
    exact @turn_of_readIdentification κ (session.entire sent more ending) _ hstate _ _ hread
  | packetLoop =>
    simp only [Fed, hstate] at h
    have hread := Transport.readPacket_entire _ sent h
    rw [turn_of_packetLoop hstate, Turn.entire, ← answerRead_changed hunseen]
    exact @turn_of_readPacket κ (session.entire sent more ending) _ hstate _ _ hread

omit [KeyExchange κ]

/-- What was drained stands in front of the whole output. -/
theorem entire_drain (session : Session κ) :
    session.drain.2.entire (sent ++ session.drain.1) more ending
      = session.entire sent more ending := by
  simp [drain, onStream, entire, changed, Transport.changed, Stream.entire]

/-- What is delivered is no longer to come. -/
theorem recut_deliver (session : Session κ) (bytes : Bytes) :
    (session.entire sent (bytes ++ more) ending).Recut
      ((session.deliver bytes).entire sent more ending) := by
  refine ⟨_, rfl, _, rfl, (session.entire sent (bytes ++ more) ending).transport.stream.chunks,
    rfl, ?_⟩
  simp [deliver, onStream, entire, changed, Transport.changed, Stream.entire, Stream.pending]

end Session

/-! ## The loop -/

namespace Live

/-- The bytes that an arrival brings. -/
def Arrival.content : Arrival → Bytes
  | .bytes arrived => arrived
  | .ended _ => []

variable {κ : Type}

/-- The arrivals are what is still to come, up to the end of the input. -/
inductive Awaits (live : Live κ) (ending : Option StreamFault) : List Arrival → Prop
  | nothing (h : live.ended = true) (hending : live.session.transport.stream.ending = ending) :
      Awaits live ending []
  | pieces (h : live.ended = false) (pieces : List Bytes) :
      Awaits live ending (pieces.map .bytes ++ [.ended ending])

variable [KeyExchange κ] {live : Live κ} {arrivals : List Arrival} {ending : Option StreamFault}

/-- A turn that is taken does what it does when all of the input is there. -/
theorem Awaits.turn (h : live.Awaits ending arrivals) {turn : Session.Turn κ}
    (hturn : live.turn? = some turn) (sent : Bytes) :
    (live.session.entire sent (arrivals.flatMap Arrival.content) ending).turn.Alike
      (turn.entire sent (arrivals.flatMap Arrival.content) ending) := by
  rw [turn_of_turn? hturn]
  apply Session.turn_entire
  cases h with
  | nothing _ hending => exact .inr ⟨rfl, hending⟩
  | pieces hopen pieces =>
    simp only [turn?, hopen, Bool.false_or, Option.ite_none_right_eq_some] at hturn
    exact .inl hturn.1

/-- The turn takes none of the arrivals, and ends no input. -/
theorem Awaits.goes_on (h : live.Awaits ending arrivals) {turn : Session.Turn κ}
    (hturn : live.turn? = some turn) :
    Awaits ⟨turn.session.drain.2, live.ended⟩ ending arrivals := by
  rw [turn_of_turn? hturn]
  cases h with
  | nothing hended hending => exact .nothing hended (live.session.onward_turn.ending.trans hending)
  | pieces hopen pieces =>
    refine .pieces ?_ pieces
    exact hopen

omit [KeyExchange κ] in
/-- A session that waits takes the next arrival for what it is. -/
theorem Awaits.receive {arrival : Arrival} (h : live.Awaits ending (arrival :: arrivals))
    (sent : Bytes) :
    (live.receive arrival).Awaits ending arrivals ∧
      (live.session.entire sent ((arrival :: arrivals).flatMap Arrival.content) ending).Recut
        ((live.receive arrival).session.entire sent (arrivals.flatMap Arrival.content) ending) := by
  generalize hall : arrival :: arrivals = all at h
  cases h with
  | nothing hended hending => cases hall
  | pieces hopen pieces =>
    cases pieces with
    | nil =>
      obtain ⟨rfl, rfl⟩ := List.cons.inj hall
      exact ⟨.nothing rfl rfl, ⟨_, rfl, .refl _⟩⟩
    | cons piece pieces =>
      obtain ⟨rfl, rfl⟩ := List.cons.inj hall
      refine ⟨.pieces ?_ pieces, live.session.recut_deliver piece⟩
      exact hopen

theorem Awaits.not_waiting_nil (h : live.Awaits ending []) : live.turn? ≠ none := by
  generalize hall : ([] : List Arrival) = all at h
  cases h with
  | nothing hended hending => simp [turn?, hended]
  | pieces hopen pieces => simp at hall

/-! What the loop does, case by case. -/

theorem attend_nil (h : live.turn? = none) : live.attend [] = ⟨none, live.session, [], [], []⟩ := by
  rw [attend.eq_def]
  split <;> simp_all

theorem attend_cons (h : live.turn? = none) (arrival : Arrival) (rest : List Arrival) :
    live.attend (arrival :: rest) = (live.receive arrival).attend rest := by
  rw [attend.eq_def]
  split <;> simp_all

theorem attend_of_ended {turn : Session.Turn κ} (h : live.turn? = some turn)
    {result : Except Fault SessionEnd} (hended : turn.ended = some result)
    (arrivals : List Arrival) :
    live.attend arrivals
      = ⟨some result, turn.session.drain.2, turn.session.drain.1, turn.events, arrivals⟩ := by
  rw [attend.eq_def]
  split
  · simp_all
  · obtain rfl := Option.some.inj (h.symm.trans ‹_›)
    simp only
    split <;> simp_all

theorem attend_of_goes_on {turn : Session.Turn κ} (h : live.turn? = some turn)
    (hgoes : turn.ended = none) (arrivals : List Arrival) :
    live.attend arrivals =
      let drained := turn.session.drain
      let later := attend ⟨drained.2, live.ended⟩ arrivals
      { later with sent := drained.1 ++ later.sent, events := turn.events ++ later.events } := by
  rw [attend.eq_def]
  split
  · simp_all
  · obtain rfl := Option.some.inj (h.symm.trans ‹_›)
    simp only
    split <;> simp_all

/-- **The loop over what is still to come** takes the turns of the session that has all of it: what it
sends stands in front of what is written from then on, and what it leaves behind the bytes unread. -/
theorem attend_entire (h : live.Awaits ending arrivals) (sent : Bytes) :
    let attended := live.attend arrivals
    ∃ result, attended.result = some result ∧ attended.session.written = [] ∧
      (live.session.entire sent (arrivals.flatMap Arrival.content) ending).converse.Alike
        ⟨result, attended.session.entire (sent ++ attended.sent)
          (attended.left.flatMap Arrival.content) ending, attended.events⟩ := by
  induction live, arrivals using attend_induction generalizing sent with
  | idle live hwait => exact absurd hwait h.not_waiting_nil
  | waits live arrival rest hwait ih =>
    obtain ⟨hrest, hrecut⟩ := h.receive sent
    obtain ⟨result, hresult, hwritten, hsame⟩ := ih hrest sent
    rw [attend_cons hwait]
    exact ⟨result, hresult, hwritten, hrecut.converse.trans hsame⟩
  | ended live arrivals turn result hturn hended =>
    have htaken := h.turn hturn sent
    rw [Session.Turn.entire, Session.Turn.changed, hended] at htaken
    rw [attend_of_ended hturn hended]
    refine ⟨result, rfl, rfl, ?_⟩
    simp only [Session.entire_drain]
    exact Session.converse_alike_of_ended htaken
  | goesOn live arrivals turn hturn hgoes ih =>
    have htaken := h.turn hturn sent
    rw [Session.Turn.entire, Session.Turn.changed, hgoes] at htaken
    obtain ⟨result, hresult, hwritten, hsame⟩ := ih (h.goes_on hturn)
      (sent ++ turn.session.drain.1)
    rw [Session.entire_drain] at hsame
    rw [attend_of_goes_on hturn hgoes]
    simp only [← List.append_assoc]
    exact ⟨result, hresult, hwritten, (Session.converse_alike_of_goes_on htaken).trans
      ⟨hsame.result, congrArg (turn.events ++ ·) hsame.events, hsame.session⟩⟩

/-- What was sent and logged stands, whatever arrives later: the loop goes on from where it waited, and
asks for nothing once the session is at its end. -/
theorem attend_append (live : Live κ) (arrivals later : List Arrival) :
    live.attend (arrivals ++ later) =
      let before := live.attend arrivals
      match before.result with
      | some _ => { before with left := before.left ++ later }
      | none =>
        let rest := attend ⟨before.session, false⟩ later
        { rest with
          sent := before.sent ++ rest.sent
          events := before.events ++ rest.events } := by
  induction live, arrivals using attend_induction with
  | idle live hwait =>
    -- a session whose input has ended never waits
    have hopen : live = ⟨live.session, false⟩ := by
      obtain ⟨session, _ | _⟩ := live
      · rfl
      · simp [turn?] at hwait
    rw [attend_nil hwait, List.nil_append, hopen]
    rfl
  | waits live arrival rest hwait ih =>
    rw [List.cons_append, attend_cons hwait, attend_cons hwait]
    exact ih
  | ended live arrivals turn result hturn hended =>
    rw [attend_of_ended hturn hended, attend_of_ended hturn hended]
  | goesOn live arrivals turn hturn hgoes ih =>
    rw [attend_of_goes_on hturn hgoes, attend_of_goes_on hturn hgoes]
    simp only
    rw [ih]
    generalize attend ⟨turn.session.drain.2, live.ended⟩ arrivals = before
    obtain ⟨_ | result, _, _, _, _⟩ := before
    · simp only [List.append_assoc]
    · rfl

theorem sent_prefix_of_append (live : Live κ) (arrivals later : List Arrival) :
    (live.attend arrivals).sent <+: (live.attend (arrivals ++ later)).sent ∧
      (live.attend arrivals).events <+: (live.attend (arrivals ++ later)).events := by
  rw [attend_append]
  cases hresult : (live.attend arrivals).result with
  | some result => simp only [hresult, List.prefix_rfl, and_self]
  | none => simp only [hresult, List.prefix_append, and_self]

end Live

/-! ## A whole run -/

namespace Session

variable {κ : Type} {sent more : Bytes} {ending : Option StreamFault}

theorem leave_entire (session : Session κ) :
    (session.entire sent more ending).leave
      = (session.leave.1.entire sent more ending, session.leave.2) := by
  unfold leave Transport.shutdown
  rw [show (session.entire sent more ending).transport.stream.shutdown
    = (session.transport.stream.shutdown.1,
        session.transport.stream.shutdown.2.entire sent more ending) from rfl]
  generalize session.transport.stream.shutdown = shutdown
  obtain ⟨fault, stream⟩ := shutdown
  cases fault with
  | none => rfl
  | some fault =>
    simp only
    split <;> rfl

/-- What a run comes to whose conversation ends in a session with the input that is still to come. -/
theorem run_of_converse_entire [KeyExchange κ] {session last : Session κ}
    {result : Except Fault SessionEnd} {events : List Event}
    (h : session.converse.Alike ⟨result, last.entire sent more ending, events⟩) :
    session.run.result = result.map last.report ∧
      session.run.events = events ++ last.leave.2 ∧
      session.run.session.written = sent ++ last.written ∧
      session.run.session.transport.stream.pending = last.transport.stream.pending ++ more ∧
      session.run.session.Recut (last.leave.1.entire sent more ending) := by
  obtain ⟨hended, hevents, hlast⟩ := h
  obtain ⟨hleft, hafter⟩ := hlast.leave
  rw [leave_entire] at hleft hafter
  have hstream := hafter.transport.stream
  refine ⟨?_, ?_, ?_, ?_, hafter⟩
  · rw [result_run, hended, hlast.report]
    rfl
  · rw [events_run, hevents, hleft]
  · rw [written_run, written, hlast.transport.stream.written]
    rfl
  · have hpending := (hlast.transport.stream.pending).trans (Stream.pending_entire _)
    rw [run_session, leave_fst]
    exact hpending

end Session

namespace Live

variable {κ : Type} [KeyExchange κ]

/-- **Piece by piece as all at once.** Let the peer's bytes come to a fresh session in any pieces, one
after the other, and then the end of the input, where a turn is taken as soon as the session is ready for
it. The session comes to the end of the run over a stream that has all of the bytes, with the same report
or fault, the same events and the same state; what is sent on the way is what the run writes, and nothing
is kept back; what is left and what is not asked for is what the run leaves unread. -/
theorem attend_as_run (config : Config) (peer : String) (exchange : κ) (pieces : List Bytes)
    (ending : Option StreamFault) :
    let live := (fresh config peer exchange).attend (pieces.map .bytes ++ [.ended ending])
    let run := (Session.fresh { Stream.ofChunks pieces with ending } config peer exchange).run
    let unasked := live.left.flatMap Arrival.content
    (∃ result, live.result = some result ∧ run.result = result.map live.session.report) ∧
      run.events = live.events ++ live.session.leave.2 ∧
      run.session.written = live.sent ∧ live.session.written = [] ∧
      run.session.transport.stream.pending = live.session.transport.stream.pending ++ unasked ∧
      run.session.Recut (live.session.leave.1.entire live.sent unasked ending) := by
  intro live run unasked
  have hawaits : (fresh config peer exchange).Awaits ending
      (pieces.map .bytes ++ [.ended ending]) := .pieces rfl pieces
  have hall : (pieces.map Arrival.bytes ++ [Arrival.ended ending]).flatMap Arrival.content
      = pieces.flatten := by
    simp [List.flatMap_map, Arrival.content, List.flatMap_id']
  have hrecut : (Session.fresh { Stream.ofChunks pieces with ending } config peer exchange).Recut
      ((fresh config peer exchange).session.entire [] pieces.flatten ending) :=
    ⟨_, rfl, _, rfl, pieces, rfl,
      (Stream.pending_entire (fresh config peer exchange).session.transport.stream).symm⟩
  obtain ⟨result, hresult, hdrained, hsame⟩ := attend_entire hawaits []
  rw [hall] at hsame
  obtain ⟨hended, hevents, hwritten, hpending, hlast⟩ :=
    Session.run_of_converse_entire (hrecut.converse.trans hsame)
  rw [hdrained, List.append_nil] at hwritten
  exact ⟨⟨result, hresult, hended⟩, hevents, hwritten, hdrained, hpending, hlast⟩

/-- A connection that is served as its bytes come reports, sends and logs what it does over a stream that
has all of them. -/
theorem attend_as_serveStream (config : Config) (peer : String) (pieces : List Bytes)
    (ending : Option StreamFault) :
    let live := (fresh config peer Cleartext.fresh).attend (pieces.map .bytes ++ [.ended ending])
    let served := serveStream { Stream.ofChunks pieces with ending } config peer
    ∃ result, live.result = some result ∧
      let report := result.map live.session.report
      served.report = report.toOption ∧ served.stream.written = live.sent ∧
        served.events = .connectionAccepted peer :: (live.events ++ live.session.leave.2)
          ++ [.ofEnd peer report] := by
  intro live served
  obtain ⟨⟨result, hresult, hreport⟩, hevents, hwritten, -⟩ :=
    attend_as_run config peer Cleartext.fresh pieces ending
  refine ⟨result, hresult, congrArg Except.toOption hreport, hwritten, ?_⟩
  show Event.connectionAccepted peer :: _ ++ [Event.ofEnd peer _] = _
  rw [hreport, hevents]

/-- **No answer waits for the end of the input.** Whatever the peer sends later and however its input
ends: what a session has sent once some pieces have come is a beginning of what is written when all of
the bytes are there, and what it has logged is a beginning of what is logged. -/
theorem sent_prefix_of_run (config : Config) (peer : String) (exchange : κ)
    (pieces later : List Bytes) (ending : Option StreamFault) :
    let live := (fresh config peer exchange).attend (pieces.map .bytes)
    let run := (Session.fresh { Stream.ofChunks (pieces ++ later) with ending } config peer
      exchange).run
    live.sent <+: run.session.written ∧ live.events <+: run.events := by
  intro live run
  obtain ⟨hsent, hlogged⟩ := sent_prefix_of_append (fresh config peer exchange)
    (pieces.map .bytes) (later.map .bytes ++ [.ended ending])
  rw [← List.append_assoc, ← List.map_append] at hsent hlogged
  obtain ⟨-, hevents, hwritten, -⟩ := attend_as_run config peer exchange (pieces ++ later) ending
  rw [show run.session.written = _ from hwritten, show run.events = _ from hevents]
  exact ⟨hsent, hlogged.trans (List.prefix_append _ _)⟩

end Live

end MockSsh
