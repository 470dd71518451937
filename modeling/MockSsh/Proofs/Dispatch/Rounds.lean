import MockSsh.Dispatch

/-!
The rounds of key exchange that a dispatcher counts. An opening is answered with zeros whatever came before
it (`result_of_opensRound`), and it alone moves the counter (`rounds_after`). So over any packets the counter
moves by the number of the openings among them, as far as its word of 32 bits can tell (`rounds_past`). Where
a sum that no word holds stops the program instead, the first opening that the word has no room for stops it
(`past?_eq`).
-/
namespace MockSsh

/-- The packet opens a round of key exchange. -/
def Packet.opensRound (packet : Packet) : Bool :=
  packet.kind? = some .keyExchangeInit

/-- The counter stands at the largest word, which holds no further round. -/
def Cleartext.Full (exchange : Cleartext) : Prop :=
  UInt32.size ≤ exchange.rounds.toNat + 1

instance (exchange : Cleartext) : Decidable exchange.Full :=
  inferInstanceAs (Decidable (_ ≤ _))

/-- A packet, and the connection on which it comes. -/
abbrev Arrival := Connection × Inbound

/-- How many of the packets open a round. -/
def openings (arrivals : List Arrival) : Nat :=
  arrivals.countP (·.2.packet.opensRound)

theorem openings_cons (arrival : Arrival) (rest : List Arrival) :
    openings (arrival :: rest) = arrival.2.packet.opensRound.toNat + openings rest := by
  rw [openings, List.countP_cons, Nat.add_comm]
  cases arrival.2.packet.opensRound <;> rfl

/-- How many of the openings in a record were answered. -/
def answeredOpenings (record : List (Inbound × Except Fault Answer)) : Nat :=
  record.countP fun entry => entry.1.packet.opensRound && entry.2.isOk

namespace Dispatcher

section Run

variable {κ : Type} [KeyExchange κ]

/-- The dispatcher after a packet. -/
def after (dispatcher : Dispatcher κ) (arrival : Arrival) : Dispatcher κ :=
  (dispatcher.dispatch arrival.1 arrival.2).dispatcher

/-- The dispatcher after some packets, which may come on different connections. -/
def past (dispatcher : Dispatcher κ) (arrivals : List Arrival) : Dispatcher κ :=
  arrivals.foldl after dispatcher

/-- The packets, each with what came of it. -/
def record (dispatcher : Dispatcher κ) : List Arrival → List (Inbound × Except Fault Answer)
  | [] => []
  | arrival :: rest =>
    (arrival.2, (dispatcher.dispatch arrival.1 arrival.2).result)
      :: (dispatcher.after arrival).record rest

end Run

/-- The dispatcher after a packet, unless the packet asks for a sum that the counter does not hold. -/
def after? (dispatcher : Dispatcher Cleartext) (arrival : Arrival) : Option (Dispatcher Cleartext) :=
  if arrival.2.packet.opensRound ∧ dispatcher.exchange.Full then none
  else some (dispatcher.after arrival)

/-- The dispatcher after some packets, unless one of them asks for a sum that the counter does not hold. -/
def past? (dispatcher : Dispatcher Cleartext) (arrivals : List Arrival) :
    Option (Dispatcher Cleartext) :=
  arrivals.foldlM after? dispatcher

/-! ## One packet -/

section Packet

variable (dispatcher : Dispatcher Cleartext)

theorem result_of_opensRound (connection : Connection) {inbound : Inbound}
    (h : inbound.packet.opensRound = true) :
    (dispatcher.dispatch connection inbound).result
      = .ok (.reply (.ofKind .keyExchangeInit (List.replicate Cleartext.initLength 0))) := by
  have hkind : inbound.packet.kind? = some .keyExchangeInit := of_decide_eq_true h
  unfold dispatch
  rw [hkind]
  rfl

/-- **One packet** moves the counter by one if it opens a round, and not at all if it does not. -/
theorem rounds_after (arrival : Arrival) :
    (dispatcher.after arrival).exchange.rounds
      = dispatcher.exchange.rounds + UInt32.ofNat arrival.2.packet.opensRound.toNat := by
  have hunmoved : dispatcher.exchange.rounds = dispatcher.exchange.rounds + UInt32.ofNat 0 :=
    (UInt32.add_zero _).symm
  unfold after dispatch Packet.opensRound
  cases arrival.2.packet.kind? with
  | none => exact hunmoved
  | some kind =>
    cases kind with
    | keyExchangeInit => rfl
    -- new keys are answered by the exchange too, but leave it as it is
    | newKeys => exact hunmoved
    | _ => exact hunmoved

/-- Where the counter has room for the packet, it counts it without going back to zero. -/
theorem toNat_rounds_after {arrival : Arrival}
    (h : ¬ (arrival.2.packet.opensRound ∧ dispatcher.exchange.Full)) :
    (dispatcher.after arrival).exchange.rounds.toNat
      = dispatcher.exchange.rounds.toNat + arrival.2.packet.opensRound.toNat := by
  rw [rounds_after, UInt32.toNat_add]
  have hword := dispatcher.exchange.rounds.toNat_lt_size
  cases hopens : arrival.2.packet.opensRound with
  | false => exact Nat.mod_eq_of_lt hword
  | true =>
    have hroom : dispatcher.exchange.rounds.toNat + 1 < UInt32.size :=
      Nat.lt_of_not_le fun hfull => h ⟨hopens, hfull⟩
    exact Nat.mod_eq_of_lt hroom

end Packet

/-! ## Packets one after the other -/

section Packets

variable (dispatcher : Dispatcher Cleartext) (arrivals : List Arrival)

/-- **The counter** moves by the number of the openings, modulo the size of its word. -/
theorem rounds_past :
    (dispatcher.past arrivals).exchange.rounds
      = dispatcher.exchange.rounds + UInt32.ofNat (openings arrivals) := by
  induction arrivals generalizing dispatcher with
  | nil => exact (UInt32.add_zero _).symm
  | cons arrival rest ih =>
    have hrest : dispatcher.past (arrival :: rest) = (dispatcher.after arrival).past rest := rfl
    rw [hrest, ih, rounds_after, openings_cons, UInt32.ofNat_add, UInt32.add_assoc]

/-- Every opening is answered, and with the same zeros. -/
theorem result_of_mem_record {entry : Inbound × Except Fault Answer}
    (hmem : entry ∈ dispatcher.record arrivals) (hopens : entry.1.packet.opensRound = true) :
    entry.2 = .ok (.reply (.ofKind .keyExchangeInit (List.replicate Cleartext.initLength 0))) := by
  induction arrivals generalizing dispatcher with
  | nil => cases hmem
  | cons arrival rest ih =>
    rcases List.mem_cons.mp hmem with rfl | hrest
    · exact dispatcher.result_of_opensRound arrival.1 hopens
    · exact ih _ hrest

theorem answeredOpenings_record :
    answeredOpenings (dispatcher.record arrivals) = openings arrivals := by
  induction arrivals generalizing dispatcher with
  | nil => rfl
  | cons arrival rest ih =>
    have hanswered : (arrival.2.packet.opensRound
        && (dispatcher.dispatch arrival.1 arrival.2).result.isOk) = arrival.2.packet.opensRound := by
      cases hopens : arrival.2.packet.opensRound with
      | false => rfl
      | true =>
        rw [dispatcher.result_of_opensRound arrival.1 hopens]
        rfl
    rw [record, answeredOpenings, List.countP_cons, hanswered, openings, List.countP_cons]
    exact congrArg (· + _) (ih _)

/-- **No sum** on the way leaves the word exactly if the word holds the last one. -/
theorem past?_eq :
    dispatcher.past? arrivals =
      if dispatcher.exchange.rounds.toNat + openings arrivals < UInt32.size
      then some (dispatcher.past arrivals) else none := by
  induction arrivals generalizing dispatcher with
  | nil => exact (if_pos dispatcher.exchange.rounds.toNat_lt_size).symm
  | cons arrival rest ih =>
    have hrest : dispatcher.past? (arrival :: rest) = (dispatcher.after? arrival).bind (past? · rest) :=
      List.foldlM_cons
    rw [hrest, after?, openings_cons]
    by_cases hstops : arrival.2.packet.opensRound ∧ dispatcher.exchange.Full
    · obtain ⟨hopens, hfull⟩ := hstops
      have hlast : ¬ dispatcher.exchange.rounds.toNat + (1 + openings rest) < UInt32.size := by
        have hfull : UInt32.size ≤ dispatcher.exchange.rounds.toNat + 1 := hfull
        omega
      rw [if_pos ⟨hopens, hfull⟩, hopens]
      exact (if_neg hlast).symm
    · rw [if_neg hstops, Option.bind_some, ih, dispatcher.toNat_rounds_after hstops, Nat.add_assoc]
      rfl

end Packets

/-- **Rounds are counted as far as a word of 32 bits goes.** Whatever packets come to a fresh dispatcher, on
whatever connections: every opening of a round is answered with 116 zeros, and the counter is the number of
the openings answered so far modulo the size of its word. So the two are equal exactly as long as fewer
than 2^32 were answered, and so long no sum leaves the word; one more takes the counter back to zero, or
stops a program that does not go on behind such a sum. -/
theorem rounds_of_arrivals (unsupportedPolicy : UnsupportedPolicy) (markers : Markers)
    (arrivals : List Arrival) :
    let fresh : Dispatcher Cleartext := ⟨unsupportedPolicy, markers, .fresh⟩
    let answered := answeredOpenings (fresh.record arrivals)
    let rounds := (fresh.past arrivals).exchange.rounds
    (∀ entry ∈ fresh.record arrivals, entry.1.packet.kind? = some .keyExchangeInit →
      entry.2 = .ok (.reply (.ofKind .keyExchangeInit (List.replicate 116 0)))) ∧
    rounds.toNat = answered % UInt32.size ∧
    (rounds.toNat = answered ↔ answered < UInt32.size) ∧
    fresh.past? arrivals = if answered < UInt32.size then some (fresh.past arrivals) else none := by
  intro fresh answered rounds
  have hanswered : answered = openings arrivals := fresh.answeredOpenings_record arrivals
  have hrounds : rounds.toNat = answered % UInt32.size := by
    have hcount : rounds = UInt32.ofNat answered := by
      rw [hanswered]
      exact (fresh.rounds_past arrivals).trans (UInt32.zero_add _)
    rw [hcount]
    rfl
  refine ⟨fun entry hmem hkind => ?_, hrounds, ?_, ?_⟩
  · exact fresh.result_of_mem_record arrivals hmem (decide_eq_true hkind)
  · rw [hrounds]
    exact ⟨fun h => h ▸ Nat.mod_lt answered (by decide), Nat.mod_eq_of_lt⟩
  · rw [hanswered, fresh.past?_eq, show fresh.exchange.rounds.toNat = 0 from rfl, Nat.zero_add]

/-- Two openings on two connections, and between them new keys and data that cannot be read. -/
theorem rounds_of_arrivals_interleaved :
    let opening : Inbound := ⟨7, ⟨20, [1, 2, 3], 0⟩⟩
    let arrivals : List Arrival :=
      [(.fresh .samePeer "a", ⟨0, ⟨20, [], 4⟩⟩), (.fresh .samePeer "a", ⟨1, ⟨21, [], 4⟩⟩),
        (.fresh .zero "b", ⟨6, ⟨94, [0, 0], 4⟩⟩), (.fresh .zero "b", opening)]
    let fresh : Dispatcher Cleartext := ⟨.ignore, .default, .fresh⟩
    let result := ((fresh.past (arrivals.take 3)).dispatch (.fresh .zero "b") opening).result
    (opening, result) ∈ fresh.record arrivals ∧ opening.packet.kind? = some .keyExchangeInit ∧
    result = .ok (.reply (.ofKind .keyExchangeInit (List.replicate 116 0))) ∧
    (fresh.past arrivals).exchange.rounds.toNat = 2 ∧
    fresh.past? arrivals = some (fresh.past arrivals) := by
  intro opening arrivals fresh result
  obtain ⟨hresults, hrounds, -, hsums⟩ := rounds_of_arrivals .ignore .default arrivals
  have hmem : (opening, result) ∈ fresh.record arrivals := List.mem_of_getElem? (i := 3) rfl
  have hanswered : answeredOpenings (fresh.record arrivals) = 2 := by decide
  refine ⟨hmem, rfl, hresults _ hmem rfl, ?_, ?_⟩
  · rw [hrounds, hanswered]
    rfl
  · rw [hsums, hanswered]
    rfl

/-- 2^32 openings are answered, and the counter says zero; where a sum has to fit its word, the last of them
has no outcome. -/
theorem rounds_of_arrivals_full :
    let opening : Arrival := (.fresh .samePeer "peer", ⟨0, ⟨20, [], 4⟩⟩)
    let arrivals := List.replicate 4294967296 opening
    let fresh : Dispatcher Cleartext := ⟨.ignore, .default, .fresh⟩
    let answered := answeredOpenings (fresh.record arrivals)
    let rounds := (fresh.past arrivals).exchange.rounds
    answered = 4294967296 ∧ rounds = 0 ∧ rounds.toNat ≠ answered ∧ fresh.past? arrivals = none := by
  intro opening arrivals fresh answered rounds
  have hopenings : openings arrivals = 4294967296 := by
    rw [openings, List.countP_replicate]
    exact if_pos rfl
  have hanswered : answered = 4294967296 := (fresh.answeredOpenings_record arrivals).trans hopenings
  have hrounds : rounds = 0 := by
    have hpast : rounds = fresh.exchange.rounds + UInt32.ofNat (openings arrivals) :=
      fresh.rounds_past arrivals
    rw [hpast, hopenings]
    rfl
  refine ⟨hanswered, hrounds, ?_, ?_⟩
  · rw [hrounds, hanswered]
    decide
  · rw [fresh.past?_eq, hopenings]
    exact if_neg (by decide)

end Dispatcher
end MockSsh
