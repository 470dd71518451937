import MockSsh.Endpoint.Address
import MockSsh.Endpoint.Fault

/-!
What a server listens on: a host, a colon, and a number of 16 bits. The host is what stands before
the last colon: an address spelled by numbers, or a name that must be looked up. Brackets around an
address of the sixth version do not belong to it; they are only understood with bare digits after
the colon.
-/
namespace MockSsh

/-- Who listens: an address, or the machine that a name stands for. -/
inductive Host
  | numeric (address : Address)
  | named (name : String)
deriving DecidableEq, Repr

/-- The host that a text names. -/
def Host.ofText (cs : List Char) : Host :=
  match Address.ofNumeric? cs with
  | some address => numeric address
  | none => named (String.ofList cs)

/-- A host and the number that a listener has on it. -/
structure Endpoint where
  host : Host
  number : UInt16
deriving DecidableEq, Repr

namespace Endpoint

/-- The number that one or more decimal digits spell, if it has 16 bits. -/
def plainNumber? (cs : List Char) : Option UInt16 :=
  (Text.number? 10 cs).bind fun value =>
    if value < 65536 then some (UInt16.ofNat value) else none

/-- The number that decimal digits spell, if it has 16 bits. One plus sign may stand in front. -/
def number? (cs : List Char) : Option UInt16 :=
  match cs with
  | '+' :: rest => plainNumber? rest
  | cs => plainNumber? cs

/-- What is before the last colon and what is after it, if there is one. -/
def splitAtLastColon (cs : List Char) : Option (List Char × List Char) :=
  match cs.reverse.span (· != ':') with
  | (_, []) => none
  | (after, _ :: before) => some (before.reverse, after.reverse)

/-- An address of the sixth version in brackets, a colon, and digits. -/
def bracketed? (cs : List Char) : Option Endpoint := do
  match cs.span (· != ']') with
  | ('[' :: address, ']' :: ':' :: digits) =>
    return ⟨.numeric (← Address.zoned? address), ← plainNumber? digits⟩
  | _ => none

/-- The endpoint that a text names. -/
def parse (text : String) : Except EndpointFault Endpoint :=
  match bracketed? text.toList with
  | some endpoint => .ok endpoint
  | none =>
    match splitAtLastColon text.toList with
    | none => .error .noNumber
    | some (before, after) =>
      match number? after with
      | none => .error .badNumber
      | some number =>
        if before.contains '\x00' then .error .zeroCharacter else .ok ⟨.ofText before, number⟩

/-- The addresses of an endpoint, in the order in which they are tried. -/
def addresses (lookUp : String → Except LookupFault (List Address)) (endpoint : Endpoint) :
    Except EndpointFault (List Address) :=
  match endpoint.host with
  | .numeric address => .ok [address]
  | .named name => (lookUp name).mapError .unresolved

end Endpoint
end MockSsh
