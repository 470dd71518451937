/-!
How the server numbers the channels that a peer opens.
-/
namespace MockSsh

/-- The rule for the server's own number of a channel. -/
inductive ChannelPolicy
  /-- The number is the peer's. -/
  | samePeer
  /-- Every channel has number zero. -/
  | zero
deriving DecidableEq, Repr

namespace ChannelPolicy

/-- The server's number for the channel that the peer numbered `peer`. -/
def localId (policy : ChannelPolicy) (peer : UInt32) : UInt32 :=
  match policy with
  | samePeer => peer
  | zero => 0

end ChannelPolicy
end MockSsh
