import MockSsh.Proofs.Channel.Table
import Mathlib.Algebra.Group.Nat.Defs
import Mathlib.Data.List.Find

/-!
A channel table answers like a roll, the plain list of the peer's numbers in the order in which it
opened its channels. The entries of a table have no order of their own; what carries the order are
the serial numbers, so the invariant (`Queued`) is a queue of the channels with rising serial
numbers below the next one. `Serves` lets the entries be listed in any other order before every
request: no answer depends on it.
-/
namespace MockSsh

/-! ## Requests and answers -/

/-- What is asked of a table. -/
inductive TableRequest
  | openChannel (peerId : UInt32)
  | lookup (localId : UInt32)
  | lookupPeer (peerId : UInt32)
  | close (localId : UInt32)
  | clear
deriving DecidableEq, Repr

/-- Whether a channel is to be opened. -/
def TableRequest.isOpening : TableRequest → Bool
  | openChannel _ => true
  | _ => false

/-- What a channel shows of itself: everything but its serial number. -/
structure ChannelView where
  peerId : UInt32
  localId : UInt32
  isOpen : Bool
deriving DecidableEq, Repr

/-- The view of a channel. -/
def Channel.view (channel : Channel) : ChannelView :=
  ⟨channel.peerId, channel.localId, channel.isOpen⟩

/-- What is answered: a number, a channel or that there is none, or nothing at all. -/
inductive TableReply
  | number (localId : UInt32)
  | channel (found : Option ChannelView)
  | done
deriving DecidableEq, Repr

/-- The table's answer to a request, and the table afterwards. -/
def ChannelTable.serve (table : ChannelTable) : TableRequest → TableReply × ChannelTable
  | .openChannel peerId =>
    (.number (table.openChannel peerId).localId, (table.openChannel peerId).table)
  | .lookup localId => (.channel ((table.lookup localId).map Channel.view), table)
  | .lookupPeer peerId => (.channel ((table.lookupPeer peerId).map Channel.view), table)
  | .close localId =>
    (.channel ((table.close localId).1.map Channel.view), (table.close localId).2)
  | .clear => (.done, table.clear)

/-- The same entries, perhaps listed in another order. -/
structure ChannelTable.Relisted (table other : ChannelTable) : Prop where
  policy : other.policy = table.policy
  entries : other.entries.Perm table.entries
  nextSerial : other.nextSerial = table.nextSerial

/-- Answers one request after the other, and lists the entries in any order before each of them. -/
inductive ChannelTable.Serves :
    ChannelTable → List TableRequest → List TableReply → ChannelTable → Prop
  | nil (table : ChannelTable) : Serves table [] [] table
  | cons {table other last : ChannelTable} {request : TableRequest}
      {requests : List TableRequest} {replies : List TableReply}
      (order : table.Relisted other) (rest : Serves (other.serve request).2 requests replies last) :
      Serves table (request :: requests) ((other.serve request).1 :: replies) last

/-! ## The roll -/

/-- The numbers that the peer gave to its open channels, in the order of opening. -/
abbrev Roll := List UInt32

namespace Roll

/-- How the channel shows itself that the peer numbered `peerId`. -/
def view (policy : ChannelPolicy) (isOpen : Bool) (peerId : UInt32) : ChannelView :=
  ⟨peerId, policy.localId peerId, isOpen⟩

/-- The first on the roll whose number of the server is `localId`. -/
def first? (policy : ChannelPolicy) (roll : Roll) (localId : UInt32) : Option UInt32 :=
  roll.find? (policy.localId · == localId)

/-- The roll's answer to a request, and the roll afterwards. -/
def serve (policy : ChannelPolicy) (roll : Roll) : TableRequest → TableReply × Roll
  | .openChannel peerId =>
    (.number (policy.localId peerId), if peerId ∈ roll then roll else roll ++ [peerId])
  | .lookup localId => (.channel ((roll.first? policy localId).map (view policy true)), roll)
  | .lookupPeer peerId =>
    (.channel (if peerId ∈ roll then some (view policy true peerId) else none), roll)
  | .close localId =>
    match roll.first? policy localId with
    | none => (.channel none, roll)
    | some peerId => (.channel (some (view policy false peerId)), roll.erase peerId)
  | .clear => (.done, [])

/-- The answers to all requests, and the roll after the last of them. -/
def serveAll (policy : ChannelPolicy) : Roll → List TableRequest → List TableReply × Roll
  | roll, [] => ([], roll)
  | roll, request :: requests =>
    let (reply, roll) := serve policy roll request
    let (replies, last) := serveAll policy roll requests
    (reply :: replies, last)

end Roll

namespace ChannelTable

/-! ## The queue behind a table -/

/-- The table's channels, as they follow each other by serial number. -/
structure Queued (table : ChannelTable) (queue : List Channel) : Prop where
  wellFiled : table.WellFiled
  entries : table.entries.Perm (queue.map fun channel => (channel.peerId, channel))
  rising : queue.Pairwise (·.serial < ·.serial)
  unused : ∀ channel ∈ queue, channel.serial < table.nextSerial

theorem Queued.empty (policy : ChannelPolicy) : (ChannelTable.empty policy).Queued [] :=
  ⟨.empty policy, .refl _, .nil, by simp⟩

section Queue

variable {table : ChannelTable} {queue : List Channel}

theorem Queued.mem_iff (h : table.Queued queue) {channel : Channel} :
    channel ∈ queue ↔ (channel.peerId, channel) ∈ table.entries := by
  rw [h.entries.mem_iff, List.mem_map]
  constructor
  · intro hmem
    exact ⟨channel, hmem, rfl⟩
  · rintro ⟨found, hmem, heq⟩
    have hsame : found = channel := (Prod.mk.inj heq).2
    exact hsame ▸ hmem

theorem Queued.channels (h : table.Queued queue) : table.channels.Perm queue := by
  have hmap := h.entries.map Prod.snd
  rwa [List.map_map, show Prod.snd ∘ (fun channel : Channel => (channel.peerId, channel)) = id
    from rfl, List.map_id] at hmap

theorem Queued.peerIds (h : table.Queued queue) :
    (table.entries.map Prod.fst).Perm (queue.map Channel.peerId) := by
  have hmap := h.entries.map Prod.fst
  rwa [List.map_map] at hmap

theorem Queued.nodup (h : table.Queued queue) : (queue.map Channel.peerId).Nodup :=
  h.peerIds.nodup_iff.mp h.wellFiled.distinct

theorem Queued.localId (h : table.Queued queue) {channel : Channel} (hmem : channel ∈ queue) :
    channel.localId = table.policy.localId channel.peerId :=
  h.wellFiled.numbered _ (h.mem_iff.mp hmem)

theorem Queued.view (h : table.Queued queue) {channel : Channel} (hmem : channel ∈ queue) :
    channel.view = Roll.view table.policy true channel.peerId := by
  rw [Channel.view, Roll.view, h.localId hmem, h.wellFiled.opened _ (h.mem_iff.mp hmem)]

/-- The least of a list is the head of its rising rearrangement. -/
theorem minOn?_eq_head?_of_perm {α : Type} {f : α → UInt64} {xs ys : List α} (h : xs.Perm ys)
    (hrising : ys.Pairwise (f · < f ·)) : xs.minOn? f = ys.head? := by
  cases ys with
  | nil => rw [h.eq_nil, List.minOn?_nil, List.head?_nil]
  | cons y rest =>
    have hy : y ∈ xs := h.mem_iff.mpr List.mem_cons_self
    obtain ⟨least, hleast⟩ := Option.isSome_iff_exists.mp (List.isSome_minOn?_of_mem (f := f) hy)
    have hle : f least ≤ f y := by
      have := List.apply_get_minOn?_le_of_mem (f := f) hy
      simpa [hleast] using this
    rw [hleast, List.head?_cons]
    rcases List.mem_cons.mp (h.mem_iff.mp (List.minOn?_mem hleast)) with rfl | hrest
    · rfl
    · -- a later one has a greater number, so it is not the least
      have hlt := List.rel_of_pairwise_cons hrising hrest
      exact absurd hlt (UInt64.not_lt.mpr hle)

/-- The serial numbers single out the channel that stands first in the queue. -/
theorem Queued.lookup (h : table.Queued queue) (localId : UInt32) :
    table.lookup localId = queue.find? (·.localId == localId) := by
  rw [ChannelTable.lookup, minOn?_eq_head?_of_perm (h.channels.filter _) (h.rising.filter _),
    List.head?_filter]

theorem Queued.lookupPeer (h : table.Queued queue) (peerId : UInt32) :
    table.lookupPeer peerId = queue.find? (·.peerId == peerId) := by
  cases hfound : queue.find? (·.peerId == peerId) with
  | some channel =>
    have hid : channel.peerId = peerId := by simpa using List.find?_some hfound
    have hmem := h.mem_iff.mp (List.mem_of_find?_eq_some hfound)
    rw [hid] at hmem
    exact h.wellFiled.lookupPeer_eq_some_iff.mpr hmem
  | none =>
    rw [lookupPeer_eq_none_iff, h.peerIds.mem_iff]
    intro hmem
    obtain ⟨channel, hchannel, hid⟩ := List.mem_map.mp hmem
    have hnone := List.find?_eq_none.mp hfound channel hchannel
    exact hnone (by simpa using hid)

/-- The queue and its roll agree on the channel that a number of the server means. -/
theorem Queued.first? (h : table.Queued queue) (localId : UInt32) :
    Roll.first? table.policy (queue.map Channel.peerId) localId
      = (queue.find? (·.localId == localId)).map Channel.peerId := by
  rw [Roll.first?, List.find?_map]
  congr 1
  apply List.find?_congr
  intro channel hmem
  rw [Function.comp_apply, h.localId hmem]

/-! ## One request -/

theorem Queued.relisted {other : ChannelTable} (h : table.Queued queue)
    (horder : table.Relisted other) : other.Queued queue where
  wellFiled := {
    distinct := (horder.entries.map Prod.fst).nodup_iff.mpr h.wellFiled.distinct
    filed := fun entry hentry => h.wellFiled.filed entry (horder.entries.mem_iff.mp hentry)
    numbered := fun entry hentry => by
      rw [horder.policy]
      exact h.wellFiled.numbered entry (horder.entries.mem_iff.mp hentry)
    opened := fun entry hentry => h.wellFiled.opened entry (horder.entries.mem_iff.mp hentry) }
  entries := horder.entries.trans h.entries
  rising := h.rising
  unused := by
    rw [horder.nextSerial]
    exact h.unused

/-- What a request does to a table and its queue: it keeps the two together, and the roll of the
queue gives the same answer. -/
def Answered (table : ChannelTable) (queue : List Channel) (request : TableRequest) : Prop :=
  ∃ after, (table.serve request).2.Queued after ∧
    Roll.serve table.policy (queue.map Channel.peerId) request
      = ((table.serve request).1, after.map Channel.peerId)

theorem Queued.answer_lookup (h : table.Queued queue) (localId : UInt32) :
    table.Answered queue (.lookup localId) := by
  refine ⟨queue, h, ?_⟩
  simp only [serve, Roll.serve]
  rw [h.first?, h.lookup]
  cases hfound : queue.find? (·.localId == localId) with
  | none => rfl
  | some channel => simp [h.view (List.mem_of_find?_eq_some hfound)]

theorem Queued.answer_lookupPeer (h : table.Queued queue) (peerId : UInt32) :
    table.Answered queue (.lookupPeer peerId) := by
  refine ⟨queue, h, ?_⟩
  simp only [serve, Roll.serve]
  rw [h.lookupPeer]
  cases hfound : queue.find? (·.peerId == peerId) with
  | some channel =>
    have hmem := List.mem_of_find?_eq_some hfound
    have hid : channel.peerId = peerId := by simpa using List.find?_some hfound
    rw [if_pos (hid ▸ List.mem_map_of_mem hmem), Option.map_some, h.view hmem, hid]
  | none =>
    have hnone : peerId ∉ queue.map Channel.peerId := by
      rw [← h.peerIds.mem_iff, ← lookupPeer_eq_none_iff, h.lookupPeer, hfound]
    rw [if_neg hnone, Option.map_none]

theorem Queued.answer_open_of_mem (h : table.Queued queue) {peerId : UInt32} {channel : Channel}
    (hfound : table.lookupPeer peerId = some channel) :
    table.Answered queue (.openChannel peerId) := by
  refine ⟨queue, ?_, ?_⟩
  · simp only [serve, openChannel_of_mem hfound]
    exact h
  · have hmem : peerId ∈ queue.map Channel.peerId :=
      h.peerIds.mem_iff.mp (List.mem_map_of_mem (mem_of_lookupPeer hfound))
    simp only [serve, Roll.serve, h.wellFiled.localId_openChannel, if_pos hmem]

/-- A channel that is opened goes to the end of the queue, for its serial number is the greatest. -/
theorem Queued.answer_open_of_not_mem (h : table.Queued queue) {peerId : UInt32}
    (hfound : table.lookupPeer peerId = none) (hroom : table.nextSerial.toNat + 1 < 2 ^ 64) :
    table.Answered queue (.openChannel peerId) := by
  have hnext : (table.nextSerial + 1).toNat = table.nextSerial.toNat + 1 := by
    rw [UInt64.toNat_add, UInt64.toNat_one, Nat.mod_eq_of_lt hroom]
  let channel : Channel := ⟨peerId, table.policy.localId peerId, true, table.nextSerial⟩
  refine ⟨queue ++ [channel], ?_, ?_⟩
  · have hfiled := h.wellFiled.openChannel peerId
    simp only [serve]
    rw [openChannel_of_not_mem hfound] at hfiled ⊢
    refine ⟨hfiled, ?_, ?_, ?_⟩
    · rw [List.map_append]
      exact (h.entries.cons _).trans (List.perm_append_singleton _ _).symm
    · refine List.pairwise_append.mpr ⟨h.rising, List.pairwise_singleton _ _, ?_⟩
      intro earlier hearlier later hlater
      rw [List.mem_singleton.mp hlater]
      exact h.unused earlier hearlier
    · intro any hany
      rw [UInt64.lt_iff_toNat_lt, hnext]
      rcases List.mem_append.mp hany with hold | hnew
      · have := UInt64.lt_iff_toNat_lt.mp (h.unused any hold)
        omega
      · rw [List.mem_singleton.mp hnew]
        exact Nat.lt_succ_self _
  · have hnone : peerId ∉ queue.map Channel.peerId := by
      rw [← h.peerIds.mem_iff]
      exact lookupPeer_eq_none_iff.mp hfound
    simp only [serve, Roll.serve, h.wellFiled.localId_openChannel, if_neg hnone,
      List.map_append, List.map_cons, List.map_nil]
    rfl

theorem Queued.answer_close (h : table.Queued queue) (localId : UInt32) :
    table.Answered queue (.close localId) := by
  cases hfound : table.lookup localId with
  | none =>
    refine ⟨queue, ?_, ?_⟩
    · simp only [serve, close_of_lookup_none hfound]
      exact h
    · have hnone : Roll.first? table.policy (queue.map Channel.peerId) localId = none := by
        rw [h.first?, ← h.lookup, hfound, Option.map_none]
      simp only [serve, Roll.serve, close_of_lookup_none hfound, hnone, Option.map_none]
  | some channel =>
    have hqueue := h.lookup localId ▸ hfound
    have hmem := List.mem_of_find?_eq_some hqueue
    refine ⟨queue.filter (·.peerId != channel.peerId), ?_, ?_⟩
    · simp only [serve, h.wellFiled.close_of_lookup hfound]
      refine ⟨h.wellFiled.filter _, ?_, h.rising.filter _, ?_⟩
      · have hkept := h.entries.filter (·.1 != channel.peerId)
        rwa [List.filter_map] at hkept
      · intro any hany
        exact h.unused any (List.mem_filter.mp hany).1
    · have hfirst : Roll.first? table.policy (queue.map Channel.peerId) localId
          = some channel.peerId := by
        rw [h.first?, hqueue, Option.map_some]
      have hview : Channel.view { channel with isOpen := false }
          = Roll.view table.policy false channel.peerId := by
        rw [Channel.view, Roll.view, h.localId hmem]
      simp only [serve, Roll.serve, h.wellFiled.close_of_lookup hfound, hfirst,
        Option.map_some, hview]
      rw [h.nodup.erase_eq_filter, List.filter_map]
      rfl

theorem Queued.answer_clear (table : ChannelTable) (queue : List Channel) :
    table.Answered queue .clear :=
  ⟨[], ⟨.clear table, .refl _, .nil, by simp⟩, rfl⟩

/-- **One request**: the table answers as the roll of its queue does. Only an opening uses up a
serial number, and only for it one must be left. -/
theorem Queued.answer (h : table.Queued queue) (request : TableRequest)
    (hroom : request.isOpening = true → table.nextSerial.toNat + 1 < 2 ^ 64) :
    table.Answered queue request := by
  cases request with
  | openChannel peerId =>
    cases hfound : table.lookupPeer peerId with
    | some channel => exact h.answer_open_of_mem hfound
    | none => exact h.answer_open_of_not_mem hfound (hroom rfl)
  | lookup localId => exact h.answer_lookup localId
  | lookupPeer peerId => exact h.answer_lookupPeer peerId
  | close localId => exact h.answer_close localId
  | clear => exact answer_clear table queue

end Queue

/-! ## All requests -/

@[simp] theorem policy_serve (table : ChannelTable) (request : TableRequest) :
    (table.serve request).2.policy = table.policy := by
  cases request with
  | openChannel peerId => exact policy_openChannel table peerId
  | close localId => exact policy_close table localId
  | lookup _ | lookupPeer _ | clear => rfl

/-- Only openings move the next serial number, and each by one at most. -/
theorem nextSerial_serve (table : ChannelTable) (request : TableRequest) :
    (table.serve request).2.nextSerial.toNat
      ≤ table.nextSerial.toNat + [request].countP TableRequest.isOpening := by
  cases request with
  | openChannel peerId =>
    show (table.openChannel peerId).table.nextSerial.toNat ≤ table.nextSerial.toNat + 1
    cases hfound : table.lookupPeer peerId with
    | some channel => simp [openChannel_of_mem hfound]
    | none =>
      rw [openChannel_of_not_mem hfound, UInt64.toNat_add, UInt64.toNat_one]
      exact Nat.mod_le _ _
  | close localId =>
    show (table.close localId).2.nextSerial.toNat ≤ _
    unfold close
    split <;> exact Nat.le_add_right _ _
  | lookup _ | lookupPeer _ | clear => exact Nat.le_add_right _ _

/-- **A whole run**: as long as serial numbers last, the answers are the roll's. -/
theorem Serves.roll {table last : ChannelTable} {requests : List TableRequest}
    {replies : List TableReply} (hrun : table.Serves requests replies last)
    {queue : List Channel} (h : table.Queued queue)
    (hroom : table.nextSerial.toNat + requests.countP TableRequest.isOpening < 2 ^ 64) :
    last.policy = table.policy ∧ ∃ final, last.Queued final ∧
      Roll.serveAll table.policy (queue.map Channel.peerId) requests
        = (replies, final.map Channel.peerId) := by
  induction hrun generalizing queue with
  | nil table => exact ⟨rfl, queue, h, rfl⟩
  | @cons table other last request requests replies order rest ih =>
    have hother := h.relisted order
    rw [List.countP_cons] at hroom
    have hone : request.isOpening = true → other.nextSerial.toNat + 1 < 2 ^ 64 := by
      intro hopening
      rw [if_pos hopening] at hroom
      rw [order.nextSerial]
      omega
    obtain ⟨after, hafter, hanswer⟩ := hother.answer request hone
    have hmoved := nextSerial_serve other request
    rw [List.countP_singleton, order.nextSerial] at hmoved
    obtain ⟨hpolicy, final, hfinal, hreplies⟩ := ih hafter (by omega)
    rw [policy_serve] at hpolicy hreplies
    rw [order.policy] at hpolicy hreplies hanswer
    refine ⟨hpolicy, final, hfinal, ?_⟩
    simp only [Roll.serveAll, hanswer, hreplies]

/-- Every run can go on to its end. -/
theorem exists_serves (table : ChannelTable) (requests : List TableRequest) :
    ∃ replies last, table.Serves requests replies last := by
  induction requests generalizing table with
  | nil => exact ⟨[], table, .nil table⟩
  | cons request requests ih =>
    obtain ⟨replies, last, hrest⟩ := ih (table.serve request).2
    exact ⟨_, last, .cons ⟨rfl, .refl _, rfl⟩ hrest⟩

/-- The table holds the channels on the roll and no others: no number stands on the roll twice,
every entry is filed, numbered and open as it must be, and to open a number on the roll again, or to
close one that means no channel, changes nothing. -/
structure Holds (table : ChannelTable) (roll : Roll) : Prop where
  wellFiled : table.WellFiled
  nodup : roll.Nodup
  mem : ∀ peerId, (table.lookupPeer peerId).isSome = true ↔ peerId ∈ roll
  size : table.size = roll.length
  isEmpty : table.isEmpty = roll.isEmpty
  reopen : ∀ peerId ∈ roll, (table.openChannel peerId).table = table
  closeNone : ∀ localId, roll.first? table.policy localId = none →
    table.close localId = (none, table)

theorem Queued.holds {table : ChannelTable} {queue : List Channel} (h : table.Queued queue) :
    table.Holds (queue.map Channel.peerId) := by
  have hmem : ∀ peerId, (table.lookupPeer peerId).isSome = true
      ↔ peerId ∈ queue.map Channel.peerId := by
    intro peerId
    rw [← h.peerIds.mem_iff, Option.isSome_iff_ne_none, ne_eq, lookupPeer_eq_none_iff, not_not]
  have hlength : table.size = (queue.map Channel.peerId).length := by
    rw [← h.peerIds.length_eq, List.length_map, size]
  refine ⟨h.wellFiled, h.nodup, hmem, hlength, ?_, ?_, ?_⟩
  · rw [← h.peerIds.isEmpty_eq, List.isEmpty_map, isEmpty]
  · intro peerId hin
    obtain ⟨channel, hfound⟩ := Option.isSome_iff_exists.mp ((hmem peerId).mpr hin)
    exact openChannel_of_mem hfound
  · intro localId hnone
    rw [h.first?, ← h.lookup, Option.map_eq_none_iff] at hnone
    exact close_of_lookup_none hnone

/-- **The table is first in, first out.** Whatever is asked of a fresh table, with fewer than 2^64
openings in all, the answers are those of the roll, in whatever order the entries are listed on the
way, and afterwards the table holds exactly the channels on the roll. -/
theorem serves_as_roll (policy : ChannelPolicy) (requests : List TableRequest)
    (hroom : requests.countP TableRequest.isOpening < 2 ^ 64) :
    (∃ last, (ChannelTable.empty policy).Serves requests
      (Roll.serveAll policy [] requests).1 last) ∧
    ∀ replies last, (ChannelTable.empty policy).Serves requests replies last →
      replies = (Roll.serveAll policy [] requests).1 ∧ last.policy = policy ∧
      last.Holds (Roll.serveAll policy [] requests).2 := by
  have hstart : (ChannelTable.empty policy).nextSerial.toNat
      + requests.countP TableRequest.isOpening < 2 ^ 64 := by
    simpa [ChannelTable.empty] using hroom
  have hall : ∀ replies last, (ChannelTable.empty policy).Serves requests replies last →
      replies = (Roll.serveAll policy [] requests).1 ∧ last.policy = policy ∧
      last.Holds (Roll.serveAll policy [] requests).2 := by
    intro replies last hrun
    obtain ⟨hpolicy, final, hfinal, hanswers⟩ := hrun.roll (.empty policy) hstart
    have hroll : Roll.serveAll policy [] requests = (replies, final.map Channel.peerId) :=
      hanswers
    rw [hroll]
    exact ⟨rfl, hpolicy, hfinal.holds⟩
  refine ⟨?_, hall⟩
  obtain ⟨replies, last, hrun⟩ := exists_serves (.empty policy) requests
  exact ⟨last, (hall replies last hrun).1 ▸ hrun⟩

/-- With all channels under number zero, a close means the oldest, and a channel that was closed and
is opened again stands behind those that stayed open. -/
theorem serves_as_roll_zero :
    let requests : List TableRequest :=
      [.openChannel 3, .openChannel 5, .openChannel 3, .close 0, .openChannel 3, .lookup 0,
        .lookupPeer 3, .clear, .close 0, .openChannel 7]
    requests.countP TableRequest.isOpening < 2 ^ 64 ∧
    Roll.serveAll .zero [] requests
      = ([.number 0, .number 0, .number 0, .channel (some ⟨3, 0, false⟩), .number 0,
          .channel (some ⟨5, 0, true⟩), .channel (some ⟨3, 0, true⟩), .done, .channel none,
          .number 0], [7]) ∧
    (∃ last, (ChannelTable.empty .zero).Serves requests
      (Roll.serveAll .zero [] requests).1 last) ∧
    ∀ replies last, (ChannelTable.empty .zero).Serves requests replies last →
      replies = (Roll.serveAll .zero [] requests).1 ∧ last.policy = .zero ∧
      last.Holds (Roll.serveAll .zero [] requests).2 :=
  ⟨by decide, by decide, serves_as_roll .zero _ (by decide)⟩

end ChannelTable
end MockSsh
