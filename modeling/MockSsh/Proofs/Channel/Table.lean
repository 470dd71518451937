import MockSsh.Channel.Table
import Mathlib.Data.List.Nodup

/-!
What a channel table keeps, whatever is asked of it: no number of the peer is filed twice, and every
entry is an open channel that is filed under its own number and has the server's number that the
policy gives. Nothing here speaks of serial numbers, so nothing depends on their width.
-/
namespace MockSsh
namespace ChannelTable

/-- The entries are open channels, each under its own number, numbered by the policy. -/
structure WellFiled (table : ChannelTable) : Prop where
  distinct : (table.entries.map Prod.fst).Nodup
  filed : ∀ entry ∈ table.entries, entry.2.peerId = entry.1
  numbered : ∀ entry ∈ table.entries, entry.2.localId = table.policy.localId entry.2.peerId
  opened : ∀ entry ∈ table.entries, entry.2.isOpen = true

theorem WellFiled.empty (policy : ChannelPolicy) : (ChannelTable.empty policy).WellFiled :=
  ⟨.nil, by simp [ChannelTable.empty], by simp [ChannelTable.empty], by simp [ChannelTable.empty]⟩

/-! ## Looking up -/

theorem mem_of_lookupPeer {table : ChannelTable} {peerId : UInt32} {channel : Channel}
    (h : table.lookupPeer peerId = some channel) : (peerId, channel) ∈ table.entries := by
  obtain ⟨before, after, heq, -⟩ := List.lookup_eq_some_iff.mp h
  simp [heq]

/-- What is filed under a number is found under it, and nothing else is. -/
theorem WellFiled.lookupPeer_eq_some_iff {table : ChannelTable} (h : table.WellFiled)
    {peerId : UInt32} {channel : Channel} :
    table.lookupPeer peerId = some channel ↔ (peerId, channel) ∈ table.entries := by
  refine ⟨mem_of_lookupPeer, ?_⟩
  intro hmem
  obtain ⟨before, after, heq⟩ := List.append_of_mem hmem
  refine List.lookup_eq_some_iff.mpr ⟨before, after, heq, ?_⟩
  intro entry hentry
  have hdistinct := h.distinct
  rw [heq, List.map_append, List.map_cons] at hdistinct
  -- an earlier entry under the same number would be filed twice
  have hne : entry.1 ≠ peerId := by
    intro hsame
    have hdisjoint := (List.nodup_append.mp hdistinct).2.2
    exact hdisjoint _ (List.mem_map_of_mem hentry) peerId (by simp) hsame
  simpa using hne.symm

theorem lookupPeer_eq_none_iff {table : ChannelTable} {peerId : UInt32} :
    table.lookupPeer peerId = none ↔ peerId ∉ table.entries.map Prod.fst := by
  rw [lookupPeer, List.lookup_eq_none_iff]
  constructor
  · intro h hmem
    obtain ⟨entry, hentry, rfl⟩ := List.mem_map.mp hmem
    simpa using h entry hentry
  · intro h entry hentry
    have hne : peerId ≠ entry.1 := fun heq => h (heq ▸ List.mem_map_of_mem hentry)
    simpa using hne

/-- Removing a number leaves every other number what it had, in whatever order they are filed. -/
theorem lookupPeer_remove (table : ChannelTable) (removed peerId : UInt32) :
    (table.remove removed).lookupPeer peerId =
      if peerId = removed then none else table.lookupPeer peerId := by
  split
  · next hsame =>
    subst hsame
    rw [lookupPeer_eq_none_iff]
    intro hmem
    obtain ⟨entry, hentry, heq⟩ := List.mem_map.mp hmem
    simp [remove, heq] at hentry
  · next hother =>
    unfold remove lookupPeer
    induction table.entries with
    | nil => rfl
    | cons entry entries ih =>
      by_cases hremoved : entry.1 = removed
      · have hnot : (peerId == entry.1) = false := by simpa [hremoved] using hother
        rw [List.filter_cons_of_neg (by simpa using hremoved), ih, List.lookup_cons, hnot]
      · rw [List.filter_cons_of_pos (by simpa using hremoved), List.lookup_cons, List.lookup_cons, ih]

theorem mem_channels_of_lookup {table : ChannelTable} {localId : UInt32} {channel : Channel}
    (h : table.lookup localId = some channel) :
    channel ∈ table.channels ∧ channel.localId = localId := by
  have hmem := List.minOn?_mem h
  rw [List.mem_filter] at hmem
  exact ⟨hmem.1, by simpa using hmem.2⟩

theorem WellFiled.mem_channels {table : ChannelTable} (h : table.WellFiled) {channel : Channel} :
    channel ∈ table.channels ↔ (channel.peerId, channel) ∈ table.entries := by
  constructor
  · intro hmem
    obtain ⟨entry, hentry, rfl⟩ := List.mem_map.mp hmem
    rwa [h.filed entry hentry]
  · intro hmem
    exact List.mem_map.mpr ⟨_, hmem, rfl⟩

/-! ## Opening, closing, clearing -/

/-- Whether the number is new or open already, the answer is the policy's number for it. -/
theorem WellFiled.localId_openChannel {table : ChannelTable} (h : table.WellFiled)
    (peerId : UInt32) : (table.openChannel peerId).localId = table.policy.localId peerId := by
  unfold openChannel
  split
  · next channel hfound =>
    have hmem := mem_of_lookupPeer hfound
    rw [h.numbered _ hmem, h.filed _ hmem]
  · rfl

theorem openChannel_of_mem {table : ChannelTable} {peerId : UInt32} {channel : Channel}
    (h : table.lookupPeer peerId = some channel) : (table.openChannel peerId).table = table := by
  rw [openChannel, h]

theorem openChannel_of_not_mem {table : ChannelTable} {peerId : UInt32}
    (h : table.lookupPeer peerId = none) :
    (table.openChannel peerId).table = { table with
      entries := (peerId, ⟨peerId, table.policy.localId peerId, true, table.nextSerial⟩)
        :: table.entries
      nextSerial := table.nextSerial + 1 } := by
  rw [openChannel, h]

/-- A close that finds a channel gives exactly that channel, closed, and removes its entry. -/
theorem WellFiled.close_of_lookup {table : ChannelTable} (h : table.WellFiled)
    {localId : UInt32} {channel : Channel} (hfound : table.lookup localId = some channel) :
    table.close localId = (some { channel with isOpen := false }, table.remove channel.peerId) := by
  have hmem := h.mem_channels.mp (mem_channels_of_lookup hfound).1
  rw [close, hfound]
  simp [h.lookupPeer_eq_some_iff.mpr hmem]

theorem close_of_lookup_none {table : ChannelTable} {localId : UInt32}
    (h : table.lookup localId = none) : table.close localId = (none, table) := by
  rw [close, h]

@[simp] theorem policy_openChannel (table : ChannelTable) (peerId : UInt32) :
    (table.openChannel peerId).table.policy = table.policy := by
  unfold openChannel
  split <;> rfl

@[simp] theorem policy_close (table : ChannelTable) (localId : UInt32) :
    (table.close localId).2.policy = table.policy := by
  unfold close
  split <;> rfl

theorem WellFiled.openChannel {table : ChannelTable} (h : table.WellFiled) (peerId : UInt32) :
    (table.openChannel peerId).table.WellFiled := by
  cases hfound : table.lookupPeer peerId with
  | some channel => rwa [openChannel_of_mem hfound]
  | none =>
    rw [openChannel_of_not_mem hfound]
    refine ⟨?_, ?_, ?_, ?_⟩
    · exact List.nodup_cons.mpr ⟨lookupPeer_eq_none_iff.mp hfound, h.distinct⟩
    · exact List.forall_mem_cons.mpr ⟨rfl, h.filed⟩
    · exact List.forall_mem_cons.mpr ⟨rfl, h.numbered⟩
    · exact List.forall_mem_cons.mpr ⟨rfl, h.opened⟩

/-- Fewer entries are filed as well as they were. -/
theorem WellFiled.filter {table : ChannelTable} (h : table.WellFiled)
    (keep : UInt32 × Channel → Bool) :
    { table with entries := table.entries.filter keep }.WellFiled where
  distinct := h.distinct.sublist (List.filter_sublist.map _)
  filed entry hentry := h.filed entry (List.mem_filter.mp hentry).1
  numbered entry hentry := h.numbered entry (List.mem_filter.mp hentry).1
  opened entry hentry := h.opened entry (List.mem_filter.mp hentry).1

theorem WellFiled.close {table : ChannelTable} (h : table.WellFiled) (localId : UInt32) :
    (table.close localId).2.WellFiled := by
  cases hfound : table.lookup localId with
  | none => rwa [close_of_lookup_none hfound]
  | some channel =>
    rw [h.close_of_lookup hfound]
    exact h.filter _

theorem WellFiled.clear (table : ChannelTable) : table.clear.WellFiled :=
  ⟨.nil, by simp [ChannelTable.clear], by simp [ChannelTable.clear], by simp [ChannelTable.clear]⟩

end ChannelTable
end MockSsh
