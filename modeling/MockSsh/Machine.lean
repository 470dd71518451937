import MockSsh.Endpoint
import MockSsh.Fault

/-!
What the program asks of the machine it runs on: the texts of files, the addresses behind names, and
leave to listen on an address. Nothing is assumed about the answers.
-/
namespace MockSsh

/-- The machine's answers. -/
structure Machine where
  read : String → Except ReadFault String
  lookUp : String → Except LookupFault (List Address)
  grant : Address → UInt16 → Except Refusal Unit

namespace Machine

/-- The first address that the machine grants with a number; if it grants none, the last refusal
counts. -/
def firstGranted (machine : Machine) (number : UInt16) :
    List Address → Except EndpointFault Address
  | [] => .error .noAddress
  | [address] =>
    match machine.grant address number with
    | .ok () => .ok address
    | .error refusal => .error (.refused refusal)
  | address :: others =>
    match machine.grant address number with
    | .ok () => .ok address
    | .error _ => machine.firstGranted number others

end Machine
end MockSsh
