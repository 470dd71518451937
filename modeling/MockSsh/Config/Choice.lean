import MockSsh.Config

/-!
The settings that are one of a few: how each choice is written in a document, how on the command
line, and what the help says about it.
-/
namespace MockSsh

/-- One of the values of a setting. -/
structure Choice (α : Type) where
  value : α
  /-- The name in a document. -/
  setting : String
  /-- The name on the command line. -/
  flag : String
  /-- Other names that the command line takes. -/
  aliases : List String
  help : String

namespace Choice

variable {α : Type}

/-- The value with a name in a document. -/
def ofSetting? (choices : List (Choice α)) (name : String) : Option α :=
  (choices.find? (·.setting == name)).map (·.value)

/-- Whether two names are the same, perhaps up to the case of ASCII letters. -/
def sameName (ignoreCase : Bool) (a b : String) : Bool :=
  if ignoreCase then a.toList.map Char.toLower == b.toList.map Char.toLower else a == b

/-- The value with a name on the command line. -/
def ofFlag? (choices : List (Choice α)) (ignoreCase : Bool) (name : String) : Option α :=
  (choices.find? fun choice =>
    (choice.flag :: choice.aliases).any (sameName ignoreCase name)).map (·.value)

/-- The words for a name that the command line does not take. -/
def unknownMessage (name : String) : String :=
  s!"invalid variant: {name}"

end Choice

/-- The name of a rule in a document. -/
def ChannelPolicy.setting : ChannelPolicy → String
  | samePeer => "mirror_peer"
  | zero => "fixed_zero"

/-- The name of a way in a document. -/
def UnsupportedPolicy.setting : UnsupportedPolicy → String
  | ignore => "ignore"
  | unimplemented => "unimplemented"
  | disconnect => "disconnect"

/-- The rules for the server's channel numbers. -/
def ChannelPolicy.choices : List (Choice ChannelPolicy) :=
  [⟨.samePeer, samePeer.setting, "mirror-peer", ["mirror", "mirror_peer"],
      "Local id equals the sender's id"⟩,
    ⟨.zero, zero.setting, "fixed-zero", ["zero", "fixed_zero"], "Local id is always 0"⟩]

/-- The ways with unsupported messages. -/
def UnsupportedPolicy.choices : List (Choice UnsupportedPolicy) :=
  [⟨.ignore, ignore.setting, "ignore", [], "Consume it silently; the connection stays open"⟩,
    ⟨.unimplemented, unimplemented.setting, "unimplemented", [],
      "Answer SSH_MSG_UNIMPLEMENTED with the packet's sequence number"⟩,
    ⟨.disconnect, disconnect.setting, "disconnect", [],
      "Send SSH_MSG_DISCONNECT (protocol error) and close"⟩]

end MockSsh
