import Mathlib.Data.Set.Card
import MockSsh.Proofs.Dispatch.History

/-!
The channel table as a record of the packets. What a packet does to the table can be told from the
packet alone (`Packet.channelEffect?`), and where the peer's numbers are the server's, an effect concerns
one number and leaves every other one as it was. So a channel is in the table exactly if, of the packets
that concern its number, the last one opens it (`Dispatcher.channels_dispatchAll`).
-/
namespace MockSsh

/-! ## One number on both sides -/

namespace ChannelTable

variable {table : ChannelTable}

theorem lookupPeer_openChannel (table : ChannelTable) (opened peerId : UInt32) :
    ((table.openChannel opened).table.lookupPeer peerId).isSome ↔
      peerId = opened ∨ (table.lookupPeer peerId).isSome := by
  cases hfound : table.lookupPeer opened with
  | some channel =>
    rw [openChannel_of_mem hfound]
    refine (or_iff_right_of_imp ?_).symm
    rintro rfl
    rw [hfound]
    rfl
  | none =>
    rw [openChannel_of_not_mem hfound, lookupPeer, List.lookup_cons]
    cases hsame : peerId == opened with
    | true => simp [beq_iff_eq.mp hsame]
    | false => simp only [beq_eq_false_iff_ne.mp hsame, false_or]; rfl

/-- Both sides number the channels alike, and the table is in good order. -/
structure Mirrored (table : ChannelTable) : Prop where
  policy : table.policy = .samePeer
  wellFiled : table.WellFiled

theorem Mirrored.of_lookupPeer (h : table.Mirrored) {peerId : UInt32} {channel : Channel}
    (hfound : table.lookupPeer peerId = some channel) :
    channel.peerId = peerId ∧ channel.localId = peerId ∧ channel.isOpen = true := by
  have hmem := mem_of_lookupPeer hfound
  have hpeer : channel.peerId = peerId := h.wellFiled.filed _ hmem
  refine ⟨hpeer, ?_, h.wellFiled.opened _ hmem⟩
  have hlocal := h.wellFiled.numbered _ hmem
  rw [h.policy] at hlocal
  exact hlocal.trans hpeer

/-- Whether a number is taken for the peer's or for the server's, it means the same channel. -/
theorem Mirrored.lookup_eq_lookupPeer (h : table.Mirrored) (number : UInt32) :
    table.lookup number = table.lookupPeer number := by
  have hpeer {channel : Channel} (hfound : table.lookup number = some channel) :
      table.lookupPeer number = some channel := by
    obtain ⟨hmem, hlocal⟩ := mem_channels_of_lookup hfound
    have hentry := h.wellFiled.mem_channels.mp hmem
    -- the server's number for the channel is the peer's, under which it is filed
    have hnumbered := h.wellFiled.numbered _ hentry
    rw [h.policy] at hnumbered
    rw [← hlocal, hnumbered]
    exact h.wellFiled.lookupPeer_eq_some_iff.mpr hentry
  cases hfound : table.lookupPeer number with
  | none =>
    cases hlookup : table.lookup number with
    | none => rfl
    | some channel => cases hfound.symm.trans (hpeer hlookup)
  | some channel =>
    obtain ⟨hid, hlocal, -⟩ := h.of_lookupPeer hfound
    have hentry := mem_of_lookupPeer hfound
    have hmem : channel ∈ table.channels := List.mem_map.mpr ⟨_, hentry, rfl⟩
    have hmeant : (table.lookup number).isSome :=
      List.isSome_minOn?_of_mem (List.mem_filter.mpr ⟨hmem, by simpa using hlocal⟩)
    obtain ⟨other, hlookup⟩ := Option.isSome_iff_exists.mp hmeant
    rw [hlookup, ← hpeer hlookup, hfound]

theorem Mirrored.lookupPeer_close (h : table.Mirrored) (closed peerId : UInt32) :
    (table.close closed).2.lookupPeer peerId =
      if peerId = closed then none else table.lookupPeer peerId := by
  cases hfound : table.lookup closed with
  | some channel =>
    rw [h.wellFiled.close_of_lookup hfound, lookupPeer_remove]
    rw [h.lookup_eq_lookupPeer] at hfound
    rw [(h.of_lookupPeer hfound).1]
  | none =>
    rw [close_of_lookup_none hfound]
    rw [h.lookup_eq_lookupPeer] at hfound
    split
    · next hsame => rw [hsame, hfound]
    · rfl

end ChannelTable

/-! ## One effect -/

/-- The number that the effect concerns. -/
def ChannelEffect.number : ChannelEffect → UInt32
  | opens number | closes number => number

namespace ChannelTable

/-- An effect decides whether the number that it concerns is in the table, and no other. -/
theorem Mirrored.isSome_lookupPeer_after {table : ChannelTable} (h : table.Mirrored)
    (effect : Option ChannelEffect) (number : UInt32) :
    ((table.after effect).lookupPeer number).isSome ↔
      effect = some (.opens number) ∨
        effect ≠ some (.closes number) ∧ (table.lookupPeer number).isSome := by
  rcases effect with _ | opened | closed
  · simp [after]
  · rw [after, lookupPeer_openChannel, Option.some_inj, ChannelEffect.opens.injEq, eq_comm]
    simp
  · rw [after, h.lookupPeer_close]
    by_cases hsame : number = closed
    · simp [hsame]
    · simp [hsame, Ne.symm hsame]

end ChannelTable

/-! ## Packets one after the other -/

namespace Dispatcher

variable {κ : Type} [KeyExchange κ]

theorem dispatchAll_append (dispatcher : Dispatcher κ) (connection : Connection)
    (history later : List Inbound) :
    dispatcher.dispatchAll connection (history ++ later) =
      let reached := dispatcher.dispatchAll connection history
      reached.1.dispatchAll reached.2 later := by
  induction history generalizing dispatcher connection with
  | nil => rfl
  | cons inbound history ih => exact ih _ _

end Dispatcher

/-- Of the effects of the packets on the channel with a number, the last. -/
def lastEffect? (number : UInt32) (history : List Inbound) : Option ChannelEffect :=
  ((history.filterMap (·.packet.channelEffect?)).filter (·.number == number)).getLast?

theorem lastEffect?_append (number : UInt32) (history later : List Inbound) :
    lastEffect? number (history ++ later)
      = (lastEffect? number later).or (lastEffect? number history) := by
  unfold lastEffect?
  rw [List.filterMap_append, List.filter_append, List.getLast?_append]

theorem lastEffect?_singleton (number : UInt32) (inbound : Inbound) :
    lastEffect? number [inbound]
      = inbound.packet.channelEffect?.filter fun effect => effect.number == number := by
  simp only [lastEffect?, List.filterMap_cons, List.filterMap_nil]
  cases inbound.packet.channelEffect? with
  | none => rfl
  | some effect =>
    simp only [List.filter_cons, Option.filter_some]
    split <;> rfl

/-- If so far the last effect decides whether a number is in the table, it does after one more packet. -/
theorem ChannelTable.Mirrored.isSome_lookupPeer_iff {table : ChannelTable} (h : table.Mirrored)
    {number : UInt32} {history : List Inbound}
    (hbefore : (table.lookupPeer number).isSome ↔ lastEffect? number history = some (.opens number))
    (inbound : Inbound) :
    ((table.after inbound.packet.channelEffect?).lookupPeer number).isSome ↔
      lastEffect? number (history ++ [inbound]) = some (.opens number) := by
  rw [h.isSome_lookupPeer_after, hbefore, lastEffect?_append, lastEffect?_singleton]
  rcases inbound.packet.channelEffect? with _ | effect
  · simp
  by_cases hconcerns : effect.number = number
  · subst hconcerns
    cases effect <;> simp [ChannelEffect.number, Option.filter_some]
  · -- an effect on another number neither opens this one nor closes it
    have hopens : effect ≠ .opens number := by
      rintro rfl
      exact hconcerns rfl
    have hcloses : effect ≠ .closes number := by
      rintro rfl
      exact hconcerns rfl
    simp [hopens, hcloses, hconcerns, Option.filter_some]

namespace Dispatcher

variable {κ : Type} [KeyExchange κ]

section Fresh

variable (dispatcher : Dispatcher κ) (peer : String) (history : List Inbound)

theorem mirrored_dispatchAll :
    (dispatcher.dispatchAll (.fresh .samePeer peer) history).2.channels.Mirrored := by
  have hsettled := (Settled.fresh dispatcher.unsupportedPolicy dispatcher.markers .samePeer
    dispatcher.exchange peer).dispatchAll history
  exact ⟨hsettled.channelPolicy, hsettled.wellFiled⟩

/-- The induction is on the packets from the last one backwards, because the last decides. -/
theorem isSome_lookupPeer_dispatchAll (number : UInt32) :
    ((dispatcher.dispatchAll (.fresh .samePeer peer) history).2.channels.lookupPeer number).isSome ↔
      lastEffect? number history = some (.opens number) := by
  induction history using List.reverseRecOn with
  | nil => exact iff_of_false nofun nofun
  | append_singleton history inbound ih =>
    rw [dispatchAll_append]
    simp only [dispatchAll]
    rw [connection_dispatch]
    exact (dispatcher.mirrored_dispatchAll peer history).isSome_lookupPeer_iff ih inbound

end Fresh

/-- **The table is the record of the packets.** Whatever packets came, well formed or not: a number is in
the table exactly if, of the packets that open it, close it or run a command on it, there is a last one
and it opens it. It then stands for an open channel that both sides give that number, whichever of them
is asked for; and the table is as long as there are such numbers. -/
theorem channels_dispatchAll (dispatcher : Dispatcher κ) (peer : String) (history : List Inbound) :
    let table := (dispatcher.dispatchAll (.fresh .samePeer peer) history).2.channels
    (∀ number, (table.lookupPeer number).isSome ↔
      lastEffect? number history = some (.opens number)) ∧
    (∀ number, table.lookup number = table.lookupPeer number) ∧
    (∀ number channel, table.lookupPeer number = some channel →
      channel.peerId = number ∧ channel.localId = number ∧ channel.isOpen = true) ∧
    table.size = {number | lastEffect? number history = some (.opens number)}.ncard := by
  intro table
  have hmirrored : table.Mirrored := dispatcher.mirrored_dispatchAll peer history
  have hpresent (number : UInt32) := dispatcher.isSome_lookupPeer_dispatchAll peer history number
  refine ⟨hpresent, hmirrored.lookup_eq_lookupPeer, fun _ _ => hmirrored.of_lookupPeer, ?_⟩
  have hnumbers : {number | lastEffect? number history = some (.opens number)}
      = ((table.entries.map Prod.fst).toFinset : Set UInt32) := by
    ext number
    rw [Set.mem_ofPred_eq, ← hpresent, Finset.mem_coe, List.mem_toFinset, Option.isSome_iff_ne_none,
      Ne, ChannelTable.lookupPeer_eq_none_iff, not_not]
  rw [hnumbers, Set.ncard_coe_finset, List.toFinset_card_of_nodup hmirrored.wellFiled.distinct,
    List.length_map]
  rfl

/-- Channel 7 is opened twice, 8 is opened and closed, and on 9 a command is run before it is opened; a
close that cannot be read and a close of 5, which is not there, change nothing. -/
theorem channels_dispatchAll_interleaved :
    let opening (number : UInt8) : Inbound := ⟨0, ⟨90, [0, 0, 0, 0, 0, 0, 0, number], 4⟩⟩
    let closing (number : UInt8) : Inbound := ⟨0, ⟨97, [0, 0, 0, number], 4⟩⟩
    let command (number : UInt8) : Inbound :=
      ⟨0, ⟨98, [0, 0, 0, number, 0, 0, 0, 4, 101, 120, 101, 99, 1], 4⟩⟩
    let history : List Inbound := [opening 7, opening 8, command 9, opening 9, closing 8, opening 7,
      ⟨0, ⟨97, [0, 0, 0], 4⟩⟩, closing 5]
    let fresh : Dispatcher Cleartext := ⟨.ignore, .default, Cleartext.fresh⟩
    let table := (fresh.dispatchAll (.fresh .samePeer "peer") history).2.channels
    (lastEffect? 7 history = some (.opens 7) ∧ (table.lookupPeer 7).isSome) ∧
      (lastEffect? 8 history = some (.closes 8) ∧ ¬ (table.lookupPeer 8).isSome) ∧
      {number | lastEffect? number history = some (.opens number)}.ncard = 2 := by
  intro opening closing command history fresh table
  obtain ⟨hpresent, -, -, hsize⟩ := channels_dispatchAll fresh "peer" history
  have hseven : lastEffect? 7 history = some (.opens 7) := by decide +kernel
  have height : lastEffect? 8 history = some (.closes 8) := by decide +kernel
  have htwo : table.size = 2 := by decide +kernel
  refine ⟨⟨hseven, (hpresent 7).mpr hseven⟩, ⟨height, ?_⟩, hsize.symm.trans htwo⟩
  rw [hpresent, height]
  decide

end Dispatcher
end MockSsh
