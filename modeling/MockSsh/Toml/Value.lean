import MockSsh.Toml.Node
import MockSsh.Toml.Number

/-!
The values of a TOML document. Arrays may go over several lines and end with a comma; tables between
braces stand on one line and may not. Values nest up to a limit.
-/
namespace MockSsh.Toml

/-- The characters that were read, given those before and those after. -/
def spelling (before after : List Char) : String :=
  String.ofList (before.take (before.length - after.length))

/-- The rest of an array after its opening bracket, or after a comma in it. -/
def arrayItems (item : Reader Node) : Nat → Reader (List Node)
  | 0, _ => none
  | bound + 1, cs =>
    match skipLines cs with
    | ']' :: rest => some ([], rest)
    | cs => do
      let (node, cs) ← item cs
      match skipLines cs with
      | ',' :: rest =>
        let (nodes, rest) ← arrayItems item bound rest
        return (node :: nodes, rest)
      | ']' :: rest => return ([node], rest)
      | _ => none

/-- A key, the sign between, and a value. -/
def keyValue (item : Reader Node) : Reader ((List String × String) × Node) := fun cs => do
  let (name, cs) ← key cs
  match cs with
  | '=' :: rest =>
    let (node, rest) ← item (skipSpaces rest)
    return ((name, node), rest)
  | _ => none

/-- The rest of a table between braces, from a key on. -/
def tableItems (item : Reader Node) : Nat → Reader (List ((List String × String) × Node))
  | 0, _ => none
  | bound + 1, cs => do
    let (pair, cs) ← keyValue item cs
    match skipSpaces cs with
    | ',' :: rest =>
      let (pairs, rest) ← tableItems item bound rest
      return (pair :: pairs, rest)
    | '}' :: rest => return ([pair], rest)
    | _ => none

/-- The table that keys and values build. -/
def tableOf (pairs : List ((List String × String) × Node)) : Option Entries :=
  pairs.foldlM (fun entries pair => entries.addDotted pair.1.1 pair.1.2 pair.2) []

/-- A number, a date or a time. -/
def numberOrMoment : Reader Node := fun cs =>
  if startsMoment cs then do
    let rest ← moment? cs
    return (.moment (spelling cs rest), rest)
  else do
    match ← number cs with
    | (.integer value, rest) => return (.integer value, rest)
    | (.fractional, rest) => return (.float (spelling cs rest), rest)

/-- A value, in which others nest at most `depth` deep. -/
def value (depth : Nat) : Reader Node := fun cs =>
  match cs with
  | '"' :: _ => (string cs).map fun (text, rest) => (.text text, rest)
  | '\'' :: _ => (string cs).map fun (text, rest) => (.text text, rest)
  | 't' :: 'r' :: 'u' :: 'e' :: rest => some (.boolean true, rest)
  | 'f' :: 'a' :: 'l' :: 's' :: 'e' :: rest => some (.boolean false, rest)
  | '[' :: rest =>
    match depth with
    | 0 => none
    | depth + 1 => do
      let (nodes, rest) ← arrayItems (value depth) (rest.length + 1) rest
      return (.array nodes, rest)
  | '{' :: rest =>
    match depth with
    | 0 => none
    | depth + 1 =>
      match skipSpaces rest with
      | '}' :: rest => some (.table .inline [], rest)
      | rest => do
        let (pairs, rest) ← tableItems (value depth) (rest.length + 1) rest
        let entries ← tableOf pairs
        return (.table .inline entries, rest)
  | cs => numberOrMoment cs

end MockSsh.Toml
