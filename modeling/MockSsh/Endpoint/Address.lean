import MockSsh.Text.Digits

/-!
Numeric addresses of hosts, in the two versions that there are: how they are spelled, and how they
are shown. An address is shown in one way only: in the sixth version the leftmost longest run of
two or more zero groups is left out, and the last two groups of an address that stands for one of
the fourth version are shown as that address.
-/
namespace MockSsh

/-- The address of a host. One of the sixth version may belong to a zone, an interface of the
machine; zone 0 is none. -/
inductive Address
  | v4 (octets : Vector UInt8 4)
  | v6 (groups : Vector UInt16 8) (zone : UInt32)
deriving DecidableEq, Repr

namespace Address

open Text (number?)

/-! ## Spelling -/

/-- The parts of a text between the marks in it. There is one part more than there are marks. -/
def parts (mark : Char) : List Char → List (List Char)
  | [] => [[]]
  | c :: rest =>
    if c = mark then [] :: parts mark rest
    else
      match parts mark rest with
      | [] => [[c]]
      | part :: others => (c :: part) :: others

/-- A part of an address of the fourth version: decimal, octal after a zero, or hexadecimal after
`0x`. -/
def looseNumber? : List Char → Option Nat
  | '0' :: 'x' :: rest => number? 16 rest
  | '0' :: 'X' :: rest => number? 16 rest
  | '0' :: rest => number? 8 ('0' :: rest)
  | cs => number? 10 cs

/-- The octets of a number of 32 bits. -/
def octetsOf (value : Nat) : Vector UInt8 4 :=
  #v[UInt8.ofNat (value / 16777216), UInt8.ofNat (value / 65536), UInt8.ofNat (value / 256),
    UInt8.ofNat value]

/-- An address of the fourth version in one to four parts. The last part stands for all octets that
have no part of their own. -/
def looseOctets? (cs : List Char) : Option (Vector UInt8 4) := do
  let values ← (parts '.' cs).mapM looseNumber?
  let last ← values.getLast?
  let front := values.dropLast
  let room := Nat.pow 256 (4 - front.length)
  if front.length ≤ 3 ∧ front.all (· < 256) ∧ last < room then
    return octetsOf (front.foldl (fun n part => n * 256 + part) 0 * room + last)
  else
    none

/-- A decimal octet of up to three digits, without zeros in front. -/
def octet? (cs : List Char) : Option UInt8 := do
  let value ← number? 10 cs
  if value < 256 ∧ cs.length ≤ 3 ∧ (cs.length = 1 ∨ cs.head? ≠ some '0') then
    return UInt8.ofNat value
  else
    none

/-- Four decimal octets with points between them. -/
def dotted? (cs : List Char) : Option (Vector UInt8 4) := do
  match ← (parts '.' cs).mapM octet? with
  | [a, b, c, d] => return #v[a, b, c, d]
  | _ => none

/-- A group of one to four hexadecimal digits. -/
def group? (cs : List Char) : Option UInt16 := do
  let value ← number? 16 cs
  if cs.length ≤ 4 then return UInt16.ofNat value else none

/-- Two octets as one group. -/
def pair (high low : UInt8) : UInt16 :=
  UInt16.ofNat (high.toNat * 256 + low.toNat)

/-- The groups that parts spell; if `mayEndDotted`, the last part may be an address of the fourth
version, which counts as two groups. -/
def groupsOf (mayEndDotted : Bool) : List (List Char) → Option (List UInt16)
  | [] => some []
  | [part] =>
    match group? part, mayEndDotted with
    | some group, _ => some [group]
    | none, false => none
    | none, true => (dotted? part).map fun o => [pair o[0] o[1], pair o[2] o[3]]
  | part :: others => do return (← group? part) :: (← groupsOf mayEndDotted others)

/-- The groups between colons, if there are any. -/
def groups? (mayEndDotted : Bool) (cs : List Char) : Option (List UInt16) :=
  if cs.isEmpty then some [] else groupsOf mayEndDotted (parts ':' cs)

/-- What is before the first pair of colons and what is after it, if there is one. -/
def splitAtGap : List Char → Option (List Char × List Char)
  | ':' :: ':' :: rest => some ([], rest)
  | c :: rest => (splitAtGap rest).map fun (before, after) => (c :: before, after)
  | [] => none

/-- Eight groups, if there are so many. -/
def eight? (groups : List UInt16) : Option (Vector UInt16 8) :=
  if h : groups.toArray.size = 8 then some ⟨groups.toArray, h⟩ else none

/-- The groups of an address of the sixth version. One pair of colons stands for one or more zero
groups. -/
def sixth? (cs : List Char) : Option (Vector UInt16 8) :=
  match splitAtGap cs with
  | none => (groupsOf true (parts ':' cs)).bind eight?
  | some (before, after) => do
    let front ← groups? false before
    let back ← groups? true after
    let gap := 8 - (front.length + back.length)
    if gap = 0 then none else eight? (front ++ List.replicate gap 0 ++ back)

/-- An address of the sixth version, with its zone after a percent sign if it has one. -/
def zoned? (cs : List Char) : Option Address :=
  match parts '%' cs with
  | [address] => (sixth? address).map fun groups => v6 groups 0
  | [address, zone] => do
    let groups ← sixth? address
    let zone ← number? 10 zone
    if zone < 4294967296 then return v6 groups (UInt32.ofNat zone) else none
  | _ => none

/-- The address that a host's text spells by numbers alone. -/
def ofNumeric? (cs : List Char) : Option Address :=
  match looseOctets? cs with
  | some octets => some (v4 octets)
  | none => zoned? cs

/-! ## Showing -/

/-- The octets in decimal with points between them. -/
def showOctets (octets : Vector UInt8 4) : String :=
  String.intercalate "." (octets.toList.map fun octet => toString octet.toNat)

/-- The groups in hexadecimal with colons between them. -/
def showGroups (groups : List UInt16) : String :=
  String.intercalate ":" (groups.map fun group => String.ofList (Nat.toDigits 16 group.toNat))

/-- For each place the length of the run of zero groups that starts there. -/
def zeroRuns : List UInt16 → List Nat
  | [] => []
  | group :: rest =>
    let runs := zeroRuns rest
    (if group = 0 then runs.headD 0 + 1 else 0) :: runs

/-- The address of the fourth version that the groups stand for, if they stand for one. -/
def mapped? (groups : Vector UInt16 8) : Option (Vector UInt8 4) :=
  match groups.toList with
  | [0, 0, 0, 0, 0, 0xFFFF, high, low] => some (octetsOf (high.toNat * 65536 + low.toNat))
  | _ => none

/-- The one way in which an address is shown. Its zone is not part of it. -/
def display : Address → String
  | v4 octets => showOctets octets
  | v6 groups _ =>
    match mapped? groups with
    | some octets => "::ffff:" ++ showOctets octets
    | none =>
      let runs := zeroRuns groups.toList
      let longest := runs.foldl max 0
      if longest < 2 then showGroups groups.toList
      else
        let start := runs.idxOf longest
        showGroups (groups.toList.take start) ++ "::"
          ++ showGroups (groups.toList.drop (start + longest))

end Address
end MockSsh
