/-!
The tree that a TOML document describes. A table remembers how it came about, because that decides
which later lines may still add to it: a table that a longer header only implies may get a header of
its own once; a table made by dotted keys may get more dotted keys; a table written as a value is
complete.
-/
namespace MockSsh.Toml

/-- How a table came about. -/
inductive Origin
  /-- By a header of its own. -/
  | header
  /-- By the header of a table inside it. -/
  | implied
  /-- By a dotted key. -/
  | dotted
  /-- As a value between braces. -/
  | inline
deriving DecidableEq, Repr

/-- A value, a table, or the array of tables that repeated headers build. Numbers that are no
integers, and dates and times, are kept as they are spelled. -/
inductive Node
  | text (value : String)
  | integer (value : Int)
  | float (spelling : String)
  | boolean (value : Bool)
  | moment (spelling : String)
  | array (items : List Node)
  | table (origin : Origin) (entries : List (String × Node))
  | tables (items : List (List (String × Node)))
deriving Repr

/-- The contents of a table, in the order of the document. Keys occur once. -/
abbrev Entries := List (String × Node)

namespace Entries

/-- Changes what stands at `key`, or adds it at the end; nothing if `change` refuses. -/
def alter (key : String) (change : Option Node → Option Node) : Entries → Option Entries
  | [] => (change none).map fun node => [(key, node)]
  | (other, node) :: rest =>
    if other = key then (change (some node)).map fun node => (other, node) :: rest
    else (alter key change rest).map ((other, node) :: ·)

/-- Adds `key`, which must be new. -/
def add (key : String) (node : Node) : Entries → Option Entries :=
  alter key fun
    | none => some node
    | some _ => none

/-- Adds `key` below the dotted `path`. The last table of the path must be made by dotted keys; on
the way there, tables that headers imply and the latest tables of arrays may be passed. -/
def addDotted : List String → String → Node → Entries → Option Entries
  | [], key, node => add key node
  | step :: path, key, node => alter step fun
    | none => (addDotted path key node []).map (.table .dotted)
    | some (.table .dotted entries) => (addDotted path key node entries).map (.table .dotted)
    | some (.table .implied entries) =>
      if path.isEmpty then none else (addDotted path key node entries).map (.table .implied)
    | some (.tables items) =>
      match items.getLast? with
      | some latest =>
        if path.isEmpty then none
        else (addDotted path key node latest).map fun latest => .tables (items.dropLast ++ [latest])
      | none => none
    | some _ => none

/-- Changes the table that a header's `path` leads to. Tables that do not exist yet are implied. -/
def inside : List String → (Entries → Option Entries) → Entries → Option Entries
  | [], change => change
  | step :: path, change => alter step fun
    | none => (inside path change []).map (.table .implied)
    | some (.table .inline _) => none
    | some (.table origin entries) => (inside path change entries).map (.table origin)
    | some (.tables items) =>
      match items.getLast? with
      | some latest =>
        (inside path change latest).map fun latest => .tables (items.dropLast ++ [latest])
      | none => none
    | some _ => none

/-- Opens the table `key` by a header: it is new, or it was only implied. -/
def openTable (key : String) : Entries → Option Entries :=
  alter key fun
    | none => some (.table .header [])
    | some (.table .implied entries) => some (.table .header entries)
    | some _ => none

/-- Opens one more table of the array `key`. -/
def openItem (key : String) : Entries → Option Entries :=
  alter key fun
    | none => some (.tables [[]])
    | some (.tables items) => some (.tables (items ++ [[]]))
    | some _ => none

end Entries
end MockSsh.Toml
