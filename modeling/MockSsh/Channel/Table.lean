import MockSsh.Channel.Policy
import MockSsh.Event

/-!
The channels that a peer has open, filed under the numbers that the peer gave them. The files are in
no particular order. The peer numbers its channels itself and a number that is open is never given
away again, so `openChannel` of such a number changes nothing. Every later message names a channel
by the server's number; where several channels share it, the one opened first is meant, and the
serial numbers of the channels tell which one that is.
-/
namespace MockSsh

/-- An open or closed channel, with the numbers of both sides. -/
structure Channel where
  peerId : UInt32
  localId : UInt32
  isOpen : Bool
  /-- The channel's place in the order of opening. -/
  serial : UInt64
deriving DecidableEq, Repr

/-- The open channels, and the rule for the server's numbers. -/
structure ChannelTable where
  policy : ChannelPolicy
  /-- The channels under the peer's numbers. -/
  entries : List (UInt32 × Channel)
  /-- The serial number of the next channel, counted in 64 bits. -/
  nextSerial : UInt64
deriving DecidableEq, Repr

namespace ChannelTable

/-- No channel. -/
def empty (policy : ChannelPolicy) : ChannelTable := ⟨policy, [], 0⟩

/-- The open channels, in no particular order. -/
def channels (table : ChannelTable) : List Channel :=
  table.entries.map Prod.snd

/-- The channel that the peer gave the number `peerId`. -/
def lookupPeer (table : ChannelTable) (peerId : UInt32) : Option Channel :=
  table.entries.lookup peerId

/-- The channel that the server's number `localId` means: of those that share it, the one opened
first. -/
def lookup (table : ChannelTable) (localId : UInt32) : Option Channel :=
  (table.channels.filter (·.localId == localId)).minOn? Channel.serial

/-- What opening a channel gives: its number, the table with it, and the events to log. -/
structure Opening where
  localId : UInt32
  table : ChannelTable
  events : List Event
deriving DecidableEq, Repr

/-- Opens a channel. A number of the peer that is open already stays as it is. -/
def openChannel (table : ChannelTable) (peerId : UInt32) : Opening :=
  match table.lookupPeer peerId with
  | some channel => ⟨channel.localId, table, [.channelReopened peerId channel.localId]⟩
  | none =>
    let localId := table.policy.localId peerId
    let events := if (table.lookup localId).isSome then [.localIdShared peerId localId] else []
    let channel : Channel := ⟨peerId, localId, true, table.nextSerial⟩
    ⟨localId, { table with
      entries := (peerId, channel) :: table.entries
      nextSerial := table.nextSerial + 1 }, events⟩

/-- The table without the entry under the peer's number `peerId`. -/
def remove (table : ChannelTable) (peerId : UInt32) : ChannelTable :=
  { table with entries := table.entries.filter (·.1 != peerId) }

/-- Closes the channel that `localId` means, and gives it as a closed one. -/
def close (table : ChannelTable) (localId : UInt32) : Option Channel × ChannelTable :=
  match table.lookup localId with
  | none => (none, table)
  | some channel =>
    ((table.lookupPeer channel.peerId).map fun channel => { channel with isOpen := false },
      table.remove channel.peerId)

/-- Forgets every channel. -/
def clear (table : ChannelTable) : ChannelTable :=
  { table with entries := [] }

/-- The number of open channels. -/
def size (table : ChannelTable) : Nat :=
  table.entries.length

/-- Whether no channel is open. -/
def isEmpty (table : ChannelTable) : Bool :=
  table.entries.isEmpty

end ChannelTable
end MockSsh
