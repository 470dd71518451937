import MockSsh.Fault
import MockSsh.Text.Utf8

/-!
Identification lines: the protocol version, the software that speaks it, and perhaps comments, as in
"SSH-2.0-Software comments". `parse` reads a line with or without its terminator and `display`
writes one without it.
-/
namespace MockSsh

/-- The first line that each side of a connection sends. -/
structure Identification where
  protocolVersion : String
  software : String
  comments : Option String
deriving DecidableEq, Repr

namespace Identification

/-- The software that the server claims to be unless it is told otherwise. -/
def defaultSoftware : String := "MockServer_1.0"

/-- A line for protocol version 2.0. -/
def ofSoftware (software : String) (comments : Option String) : Identification :=
  ⟨"2.0", software, comments⟩

/-- The server's own line. -/
def own : Identification := ofSoftware defaultSoftware none

/-- The line without its terminator. -/
def display (id : Identification) : String :=
  let comments := match id.comments with
    | some comments => " " ++ comments
    | none => ""
  "SSH-" ++ id.protocolVersion ++ "-" ++ id.software ++ comments

/-- The line as it is sent, with CR LF at its end. -/
def wire (id : Identification) : Bytes :=
  Utf8.encode id.display ++ [0x0D, 0x0A]

/-- What is before the first `separator` and what is after it, if there is one. -/
def splitAtFirst (separator : Char) : List Char → Option (List Char × List Char)
  | [] => none
  | c :: rest =>
    if c = separator then some ([], rest)
    else (splitAtFirst separator rest).map fun (before, after) => (c :: before, after)

/-- A reversed line without the CR LF pairs at its end. -/
def dropLineEnds : List Char → List Char
  | '\n' :: '\r' :: rest => dropLineEnds rest
  | line => line

/-- The line without its terminators: first every CR LF at the end, then every LF. -/
def stripTerminator (line : List Char) : List Char :=
  ((dropLineEnds line.reverse).dropWhile (· == '\n')).reverse

/-- The characters after "SSH-", if the line starts so. -/
def afterMarker : List Char → Option (List Char)
  | 'S' :: 'S' :: 'H' :: '-' :: rest => some rest
  | _ => none

/-- Reads a line. The protocol version ends at the first dash and the software at the first space;
comments lose the blanks around them. Only the software must not be empty. -/
def parse (line : String) : Except ProtocolFault Identification :=
  let stripped := stripTerminator line.toList
  match afterMarker stripped with
  | none => .error (.notIdentification (String.ofList stripped))
  | some rest =>
    match splitAtFirst '-' rest with
    | none => .error (.missingSoftwareField (String.ofList stripped))
    | some (protocolVersion, rest) =>
      let (software, comments) := match splitAtFirst ' ' rest with
        | some (software, comments) => (software, some (String.ofList (Text.trim comments)))
        | none => (rest, none)
      if software.isEmpty then
        .error (.emptySoftware (String.ofList stripped))
      else
        .ok ⟨String.ofList protocolVersion, String.ofList software, comments⟩

end Identification
end MockSsh
