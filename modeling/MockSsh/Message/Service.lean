import MockSsh.Message.Cursor
import MockSsh.Packet

/-!
The messages before a login: the request for a service with its acceptance, and the answers to a
login request.
-/
namespace MockSsh.Message

/-- The request for a service. -/
structure ServiceRequest where
  service : String
deriving DecidableEq, Repr

/-- A payload without fields asks for the service without a name. -/
def ServiceRequest.parse (payload : Bytes) : Except PayloadFault ServiceRequest := do
  if payload.isEmpty then
    return ⟨""⟩
  else
    let (service, _) ← (Cursor.start payload).text
    return ⟨service⟩

/-- The acceptance of a service. -/
structure ServiceAccept where
  service : String
deriving DecidableEq, Repr

/-- The message as the server sends it. -/
def ServiceAccept.packet (message : ServiceAccept) : Packet :=
  .ofKind .serviceAccept (encodeText message.service)

/-- The service that every request is granted. -/
def ServiceAccept.login : ServiceAccept := ⟨"ssh-userauth"⟩

/-- The statement that a public key would be acceptable. -/
structure PublicKeyOk where
  algorithm : String
  key : Bytes
deriving DecidableEq, Repr

namespace PublicKeyOk

/-- The server's own answer names no key. -/
def own : PublicKeyOk := ⟨"ssh-ed25519", []⟩

/-- The fields: the algorithm and the key, both as strings. -/
def payload (message : PublicKeyOk) : Bytes :=
  encodeText message.algorithm ++ encodeString message.key

/-- The message as the server sends it. -/
def packet (message : PublicKeyOk) : Packet :=
  .ofKind .authPublicKeyOk message.payload

/-- Reads the two fields. Nothing may stand after the key. -/
def parse (payload : Bytes) : Except PayloadFault PublicKeyOk := do
  let (algorithm, cursor) ← (Cursor.start payload).text
  let (key, cursor) ← cursor.string
  if cursor.rest.isEmpty then
    return ⟨algorithm, key⟩
  else
    throw (.trailing cursor.rest.length)

end PublicKeyOk

/-- The statement that the login succeeded; it has no fields. -/
def authSuccess : Packet :=
  .ofKind .authSuccess []

end MockSsh.Message
