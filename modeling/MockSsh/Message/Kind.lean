/-!
The message numbers that the server reads or writes, with their names. `Kind.ofNumber?_number` and
`Kind.number_of_ofNumber?` say that a number stands for at most one kind and each kind has one.
-/
namespace MockSsh.Message

/-- A known message, in the order of the numbers. -/
inductive Kind
  | disconnect
  | ignore
  | unimplemented
  | debug
  | serviceRequest
  | serviceAccept
  | keyExchangeInit
  | newKeys
  | authRequest
  | authFailure
  | authSuccess
  | authPublicKeyOk
  | channelOpen
  | channelOpenConfirmation
  | channelWindowAdjust
  | channelData
  | channelEnd
  | channelClose
  | channelRequest
  | channelSuccess
deriving DecidableEq, Repr

namespace Kind

/-- The message number. -/
def number : Kind → UInt8
  | disconnect => 1
  | ignore => 2
  | unimplemented => 3
  | debug => 4
  | serviceRequest => 5
  | serviceAccept => 6
  | keyExchangeInit => 20
  | newKeys => 21
  | authRequest => 50
  | authFailure => 51
  | authSuccess => 52
  | authPublicKeyOk => 60
  | channelOpen => 90
  | channelOpenConfirmation => 91
  | channelWindowAdjust => 93
  | channelData => 94
  | channelEnd => 96
  | channelClose => 97
  | channelRequest => 98
  | channelSuccess => 99

/-- Every kind. -/
def all : List Kind :=
  [disconnect, ignore, unimplemented, debug, serviceRequest, serviceAccept, keyExchangeInit,
    newKeys, authRequest, authFailure, authSuccess, authPublicKeyOk, channelOpen,
    channelOpenConfirmation, channelWindowAdjust, channelData, channelEnd, channelClose,
    channelRequest, channelSuccess]

/-- The kind with a given number. -/
def ofNumber? (number : UInt8) : Option Kind :=
  all.find? fun kind => kind.number == number

/-- The name of the message in the protocol's documents. -/
def name : Kind → String
  | disconnect => "SSH_MSG_DISCONNECT"
  | ignore => "SSH_MSG_IGNORE"
  | unimplemented => "SSH_MSG_UNIMPLEMENTED"
  | debug => "SSH_MSG_DEBUG"
  | serviceRequest => "SSH_MSG_SERVICE_REQUEST"
  | serviceAccept => "SSH_MSG_SERVICE_ACCEPT"
  | keyExchangeInit => "SSH_MSG_KEXINIT"
  | newKeys => "SSH_MSG_NEWKEYS"
  | authRequest => "SSH_MSG_USERAUTH_REQUEST"
  | authFailure => "SSH_MSG_USERAUTH_FAILURE"
  | authSuccess => "SSH_MSG_USERAUTH_SUCCESS"
  | authPublicKeyOk => "SSH_MSG_USERAUTH_PK_OK"
  | channelOpen => "SSH_MSG_CHANNEL_OPEN"
  | channelOpenConfirmation => "SSH_MSG_CHANNEL_OPEN_CONFIRMATION"
  | channelWindowAdjust => "SSH_MSG_CHANNEL_WINDOW_ADJUST"
  | channelData => "SSH_MSG_CHANNEL_DATA"
  | channelEnd => "SSH_MSG_CHANNEL_EOF"
  | channelClose => "SSH_MSG_CHANNEL_CLOSE"
  | channelRequest => "SSH_MSG_CHANNEL_REQUEST"
  | channelSuccess => "SSH_MSG_CHANNEL_SUCCESS"

/-- Whether the server consumes the message without any answer. -/
def isSilent : Kind → Bool
  | ignore | unimplemented | debug | channelWindowAdjust | channelEnd => true
  | _ => false

/-- Name and number together. -/
def label (kind : Kind) : String :=
  s!"{kind.name}({kind.number.toNat})"

@[simp] theorem ofNumber?_number (kind : Kind) : ofNumber? kind.number = some kind := by
  cases kind <;> rfl

theorem number_of_ofNumber? {number : UInt8} {kind : Kind} (h : ofNumber? number = some kind) :
    kind.number = number := by
  have := List.find?_some h
  simpa using this

end Kind

/-- What a log says about a message number, known or not. -/
def describe (number : UInt8) : String :=
  match Kind.ofNumber? number with
  | some kind => kind.label
  | none => s!"UNKNOWN({number.toNat})"

end MockSsh.Message
