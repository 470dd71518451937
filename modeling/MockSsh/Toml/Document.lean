import MockSsh.Toml.Value

/-!
A TOML document, line by line. Keys go into the table whose header was last; before the first header
they go into the root. A document that breaks a rule is no document: `parse?` gives nothing.
-/
namespace MockSsh.Toml

/-- The tree so far, and the path of the table that keys go into. -/
structure Draft where
  root : Entries
  current : List String

/-- A header between single brackets, or double ones, after the first bracket. -/
def header (draft : Draft) (cs : List Char) : Option (Draft × List Char) := do
  match cs with
  | '[' :: rest =>
    let ((path, last), rest) ← key rest
    let root ← draft.root.inside path (Entries.openItem last)
    let rest ← endLine? (← expect ']' (← expect ']' rest))
    return (⟨root, path ++ [last]⟩, rest)
  | _ =>
    let ((path, last), rest) ← key cs
    let root ← draft.root.inside path (Entries.openTable last)
    let rest ← endLine? (← expect ']' rest)
    return (⟨root, path ++ [last]⟩, rest)

/-- A key with its value. -/
def assignment (draft : Draft) (cs : List Char) : Option (Draft × List Char) := do
  let (((path, last), node), rest) ← keyValue (value depthLimit) cs
  let root ← draft.root.inside draft.current fun entries => entries.addDotted path last node
  let rest ← endLine? rest
  return ({ draft with root }, rest)

/-- The lines from here to the end. -/
def lines : Nat → Draft → List Char → Option Entries
  | 0, _, _ => none
  | bound + 1, draft, cs =>
    match skipSpaces cs with
    | [] => some draft.root
    | '#' :: rest => (endLine? ('#' :: rest)).bind (lines bound draft)
    | '[' :: rest => do
      let (draft, rest) ← header draft rest
      lines bound draft rest
    | '\n' :: rest => lines bound draft rest
    | '\r' :: rest => (newline? ('\r' :: rest)).bind (lines bound draft)
    | rest => do
      let (draft, rest) ← assignment draft rest
      lines bound draft rest

/-- The root table of a document. A byte order mark in front does not count. -/
def parse? (text : String) : Option Entries :=
  let cs := match text.toList with
    | '\uFEFF' :: rest => rest
    | cs => cs
  lines (cs.length + 1) ⟨[], []⟩ cs

end MockSsh.Toml
