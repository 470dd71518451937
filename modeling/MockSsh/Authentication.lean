import MockSsh.Message.Cursor

/-!
How the server takes a login request: it looks for two marker texts anywhere in the payload. A
request with the first marker asks whether a public key would do; every other request logs in.
-/
namespace MockSsh

/-- The texts that tell login requests apart. An empty marker marks nothing. -/
structure Markers where
  probe : String
  signed : String
deriving DecidableEq, Repr

/-- The markers unless the settings name others. -/
def Markers.default : Markers := ⟨"pubkey_probe", "signed_request"⟩

/-- What a login request is. -/
inductive LoginKind
  | publicKeyProbe
  | signedRequest
  | generic
deriving DecidableEq, Repr

namespace LoginKind

/-- The kind's name in logs. -/
def name : LoginKind → String
  | publicKeyProbe => "PublicKeyProbe"
  | signedRequest => "SignedRequest"
  | generic => "Generic"

/-- Whether a request of this kind logs in. -/
def authenticates : LoginKind → Bool
  | publicKeyProbe => false
  | signedRequest | generic => true

end LoginKind

/-- Whether the marker is not empty and its bytes stand somewhere in the payload. -/
def marks (marker : String) (payload : Bytes) : Bool :=
  let needle := Utf8.encode marker
  !needle.isEmpty && Bytes.occurs needle payload

/-- The kind of a login request. With both markers present it is a probe. -/
def Markers.classify (markers : Markers) (payload : Bytes) : LoginKind :=
  if marks markers.probe payload then .publicKeyProbe
  else if marks markers.signed payload then .signedRequest
  else .generic

/-- The user that a login request names, for logs: its first field, unless that is cut short, empty,
or holds a control character. -/
def userHint (payload : Bytes) : Option String :=
  match (Message.Cursor.start payload).text with
  | .error _ => none
  | .ok (user, _) =>
    if user.isEmpty || user.toList.any Text.isControl then none else some user

end MockSsh
