import MockSsh.Text.Quoted

/-!
Why a server cannot listen on an address: the text names none, nothing is known by its name, or the
system refuses it.
-/
namespace MockSsh

/-- Why a name stands for no address. -/
inductive LookupFault
  | unknownName
  | noAnswer
  | other (text : String)
deriving DecidableEq, Repr

/-- The words for the cause. -/
def LookupFault.message : LookupFault → String
  | unknownName => "Name or service not known"
  | noAnswer => "Temporary failure in name resolution"
  | other text => text

/-- Why the system lets nobody listen on an address. -/
inductive Refusal
  | denied
  | noDevice
  | invalid
  | inUse
  | notAvailable
  | other (code : Nat) (text : String)
deriving DecidableEq, Repr

namespace Refusal

/-- The system's number for the refusal. -/
def code : Refusal → Nat
  | denied => 13
  | noDevice => 19
  | invalid => 22
  | inUse => 98
  | notAvailable => 99
  | other code _ => code

/-- The refusal's name in diagnostics. -/
def name : Refusal → String
  | denied => "PermissionDenied"
  | noDevice => "Uncategorized"
  | invalid => "InvalidInput"
  | inUse => "AddrInUse"
  | notAvailable => "AddrNotAvailable"
  | other _ _ => "Uncategorized"

/-- The system's words for the refusal. -/
def text : Refusal → String
  | denied => "Permission denied"
  | noDevice => "No such device"
  | invalid => "Invalid argument"
  | inUse => "Address already in use"
  | notAvailable => "Cannot assign requested address"
  | other _ text => text

end Refusal

/-- Why there is nothing to listen on. -/
inductive EndpointFault
  /-- No colon parts a host from a number. -/
  | noNumber
  /-- What follows the last colon is no number of 16 bits. -/
  | badNumber
  | zeroCharacter
  | unresolved (cause : LookupFault)
  /-- A name stands for an empty list of addresses. -/
  | noAddress
  | refused (cause : Refusal)
deriving DecidableEq, Repr

namespace EndpointFault

/-- The words for the cause. -/
def message : EndpointFault → String
  | noNumber => "invalid socket address"
  | badNumber => "invalid port value"
  | zeroCharacter => "file name contained an unexpected NUL byte"
  | unresolved cause => s!"failed to lookup address information: {cause.message}"
  | noAddress => "could not resolve to any address"
  | refused cause => s!"{cause.text} (os error {cause.code})"

/-- The fault as an administrator sees it when the server does not start. -/
def diagnostic : EndpointFault → String
  | unresolved cause =>
    let text := (unresolved cause).message
    s!"Custom \x7b kind: Uncategorized, error: {Text.quoted text} \x7d"
  | noAddress => s!"Custom \x7b kind: InvalidInput, error: {Text.quoted noAddress.message} \x7d"
  | refused cause =>
    s!"Os \x7b code: {cause.code}, kind: {cause.name}, message: {Text.quoted cause.text} \x7d"
  | fault => s!"Error \x7b kind: InvalidInput, message: {Text.quoted fault.message} \x7d"

end EndpointFault
end MockSsh
