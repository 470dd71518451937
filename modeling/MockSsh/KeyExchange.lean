import MockSsh.Fault
import MockSsh.Bytes

/-!
What stands in for a key exchange. Its two messages are answered from its own state alone, so that
the rest of the server can be told about without it. `Cleartext` agrees on no keys.
-/
namespace MockSsh

/-- A way to answer the two messages of a key exchange. -/
class KeyExchange (κ : Type) where
  name : κ → String
  /-- The answer to the peer's opening payload. -/
  answerInit : κ → Bytes → Except Fault Bytes × κ
  /-- The answer to the peer's announcement of new keys. -/
  answerNewKeys : κ → Except Fault Bytes × κ
  /-- Whether packets are encrypted from now on. -/
  keysActive : κ → Bool

/-- The exchange without keys. It counts the rounds that it answered, in 32 bits. -/
structure Cleartext where
  rounds : UInt32
deriving DecidableEq, Repr

namespace Cleartext

/-- The exchange before its first round. -/
def fresh : Cleartext := ⟨0⟩

/-- The length of the answer to every opening. -/
def initLength : Nat := 116

/-- Every opening is answered with zeros, and new keys with nothing. -/
instance : KeyExchange Cleartext where
  name _ := "cleartext"
  answerInit exchange _ := (.ok (List.replicate initLength 0), ⟨exchange.rounds + 1⟩)
  answerNewKeys exchange := (.ok [], exchange)
  keysActive _ := false

end Cleartext

/-- An exchange that follows a script: given bytes in front of the peer's own opening, and given
bytes for the new keys. Where the script has no bytes it fails. -/
structure ScriptedExchange where
  init : Option Bytes
  newKeys : Option Bytes
deriving DecidableEq, Repr

/-- The script never runs out: every opening is answered alike, and so are all new keys. -/
instance : KeyExchange ScriptedExchange where
  name _ := "scripted"
  answerInit exchange peer :=
    (match exchange.init with
      | some bytes => .ok (bytes ++ peer)
      | none => .error (.protocol (.other "scripted kexinit failure")), exchange)
  answerNewKeys exchange :=
    (match exchange.newKeys with
      | some bytes => .ok bytes
      | none => .error (.protocol (.other "scripted newkeys failure")), exchange)
  keysActive _ := false

end MockSsh
