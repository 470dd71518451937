import MockSsh.Authentication
import MockSsh.Channel.Policy
import MockSsh.Identification
import MockSsh.Packet

/-!
The server's settings, and which of them can be used. `Config.validate` names the first setting
that cannot, in the order in which the settings are listed.
-/
namespace MockSsh

/-- What to do with a message that the server has no answer for. -/
inductive UnsupportedPolicy
  /-- Nothing; the conversation goes on. -/
  | ignore
  /-- Refuse the packet by its sequence number; the conversation goes on. -/
  | unimplemented
  /-- Announce a breach of the protocol and leave. -/
  | disconnect
deriving DecidableEq, Repr

/-- The name of a policy in diagnostics. -/
def UnsupportedPolicy.name : UnsupportedPolicy → String
  | ignore => "Ignore"
  | unimplemented => "Unimplemented"
  | disconnect => "Disconnect"

/-- The settings of a server. -/
structure Config where
  listenAddress : String
  serverVersion : String
  channelPolicy : ChannelPolicy
  unsupportedPolicy : UnsupportedPolicy
  /-- The longest identification line of a peer, with its terminator. -/
  maxIdentificationLength : Nat
  /-- The largest total length of a peer's packet. -/
  maxPacketLength : Nat
  markers : Markers
deriving DecidableEq, Repr

namespace Config

/-- The settings of a server that was told nothing. -/
def default : Config where
  listenAddress := "127.0.0.1:2222"
  serverVersion := Identification.defaultSoftware
  channelPolicy := .samePeer
  unsupportedPolicy := .ignore
  maxIdentificationLength := 255
  maxPacketLength := Packet.defaultLimit
  markers := .default

/-- Whether `c` would end the software field of an identification line, or the line itself. -/
def endsSoftware (c : Char) : Bool :=
  c == '\r' || c == '\n' || c == ' ' || c == '-'

/-- The shortest limit that admits a line, and the shortest that admits a header. -/
def leastIdentificationLength : Nat := 3

/-- The first setting that cannot be used, if there is one. -/
def fault? (config : Config) : Option ConfigFault :=
  if config.listenAddress.isEmpty then some .emptyListenAddress
  else if config.serverVersion.isEmpty then some .emptyServerVersion
  else if config.serverVersion.toList.any endsSoftware then
    some (.serverVersionCharacter config.serverVersion)
  else if config.maxIdentificationLength < leastIdentificationLength then
    some .identificationLimit
  else if config.maxPacketLength < Header.size then some (.packetLimit Header.size)
  else none

/-- The settings themselves, if all of them can be used. -/
def validate (config : Config) : Except ConfigFault Config :=
  match config.fault? with
  | some fault => .error fault
  | none => .ok config

end Config
end MockSsh
