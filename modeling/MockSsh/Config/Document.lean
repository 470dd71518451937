import MockSsh.Config.Choice
import MockSsh.Toml.Node

/-!
Settings from a document. Every setting has a default, so that an empty document is one. At the top
level only the known keys may stand; among the markers unknown keys are passed over. How a text is
taken apart into entries is left to a parser, `parse`; the program's own is `Toml.parse?`.
-/
namespace MockSsh

open Toml (Node Entries)

/-- A text. -/
def Toml.Node.text? : Node → Option String
  | .text value => some value
  | _ => none

/-- An integer that is not negative. -/
def Toml.Node.size? : Node → Option Nat
  | .integer value => if 0 ≤ value then some value.toNat else none
  | _ => none

/-- Whether a value or table has nothing in it. -/
def Toml.Node.isEmptyContainer : Node → Bool
  | .array items => items.isEmpty
  | .table _ entries => entries.isEmpty
  | .tables items => items.isEmpty
  | _ => false

/-- One of the values of a setting: by its name, or as a table whose only key is the name, with
nothing in it. -/
def Choice.ofNode? {α : Type} (choices : List (Choice α)) : Node → Option α
  | .text name => ofSetting? choices name
  | .table _ [(name, content)] =>
    if content.isEmptyContainer then ofSetting? choices name else none
  | _ => none

namespace Markers

/-- One key of the markers. -/
def withEntry (markers : Markers) (key : String) (node : Node) : Option Markers :=
  match key with
  | "probe" => node.text?.map fun probe => { markers with probe }
  | "signed" => node.text?.map fun signed => { markers with signed }
  | _ => some markers

/-- Markers from a table, or from an array in which they stand in order; what an array holds beyond
them does not count. A date or a time counts as a table in which none of them is set. -/
def ofNode? : Node → Option Markers
  | .table _ entries =>
    entries.foldlM (fun markers entry => withEntry markers entry.1 entry.2) default
  | .array [] => some default
  | .array [probe] => probe.text?.map fun probe => { default with probe }
  | .moment _ => some default
  | .array (probe :: signed :: _) => do return ⟨← probe.text?, ← signed.text?⟩
  | _ => none

end Markers

namespace Config

/-- One key of a document. -/
def withEntry (config : Config) (key : String) (node : Node) : Option Config :=
  match key with
  | "listen_addr" => node.text?.map fun listenAddress => { config with listenAddress }
  | "server_version" => node.text?.map fun serverVersion => { config with serverVersion }
  | "channel_id_policy" =>
    (Choice.ofNode? ChannelPolicy.choices node).map fun channelPolicy =>
      { config with channelPolicy }
  | "unknown_message_policy" =>
    (Choice.ofNode? UnsupportedPolicy.choices node).map fun unsupportedPolicy =>
      { config with unsupportedPolicy }
  | "max_identification_length" =>
    node.size?.map fun maxIdentificationLength => { config with maxIdentificationLength }
  | "max_packet_length" => node.size?.map fun maxPacketLength => { config with maxPacketLength }
  | "auth_markers" => (Markers.ofNode? node).map fun markers => { config with markers }
  | _ => none

/-- The settings of a document, usable or not. -/
def ofEntries? (entries : Entries) : Option Config :=
  entries.foldlM (fun config entry => config.withEntry entry.1 entry.2) default

section

variable (parse : String → Option Entries)

/-- The settings that a text describes, usable or not. -/
def read? (text : String) : Except ConfigFault Config :=
  match (parse text).bind ofEntries? with
  | some config => .ok config
  | none => .error .malformedDocument

/-- The settings that a text describes, if all of them can be used. -/
def ofText (text : String) : Except ConfigFault Config := do
  (← read? parse text).validate

/-- The settings in the file at a path, if all of them can be used; `read` reads a file. -/
def load (read : String → Except ReadFault String) (path : String) : Except ConfigFault Config :=
  match read path with
  | .error reason => .error (.unreadable path reason)
  | .ok text => ofText parse text

end

end Config
end MockSsh
