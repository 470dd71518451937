import MockSsh.Toml.Reader

/-!
The numbers, dates and times of a TOML document. An integer has 64 bits with its sign. A number with
a fraction or an exponent is only checked: it is kept as it is spelled, and refused where it is
positive and beyond the range of double precision.
-/
namespace MockSsh.Toml

open Text (hexValue?)

/-- Whether `c` is a decimal digit. -/
def isDigit (c : Char) : Bool :=
  '0' ≤ c && c ≤ '9'

/-- Digits that go on, with single underscores between them. An underscore must have a digit after
it. -/
def moreDigits (digit : Char → Bool) : Reader (List Char)
  | '_' :: c :: rest => if digit c then prepend c (moreDigits digit rest) else none
  | '_' :: [] => none
  | c :: rest => if digit c then prepend c (moreDigits digit rest) else some ([], c :: rest)
  | [] => some ([], [])

/-- One or more digits, with single underscores between them. -/
def digits (digit : Char → Bool) : Reader (List Char)
  | c :: rest => if digit c then prepend c (moreDigits digit rest) else none
  | [] => none

/-- The whole part of a decimal number: a zero stands alone. -/
def wholePart : Reader (List Char)
  | '0' :: rest => some (['0'], rest)
  | cs => digits isDigit cs

/-- The number that digits spell in a base. -/
def spelled (base : Nat) (cs : List Char) : Nat :=
  cs.foldl (fun value c => value * base + (hexValue? c).getD 0) 0

/-- Whether an integer fits into 64 bits with its sign. -/
def fits (value : Int) : Bool :=
  -9223372036854775808 ≤ value && value ≤ 9223372036854775807

/-- The integer, if it fits. -/
def bounded (value : Int) : Option Int :=
  if fits value then some value else none

/-- Whether `mantissa * 10 ^ exponent` rounds to infinity in double precision: whether it reaches
the middle between the largest finite number and 2^1024. -/
def overflows (mantissa : Nat) (exponent : Int) : Bool :=
  let middle := Nat.pow 2 1024 - Nat.pow 2 970
  let places : Int := (Nat.toDigits 10 mantissa).length
  if mantissa = 0 then false
  else if places + exponent ≤ 300 then false
  else if 310 ≤ places - 1 + exponent then true
  else if 0 ≤ exponent then middle ≤ mantissa * Nat.pow 10 exponent.toNat
  else middle * Nat.pow 10 (-exponent).toNat ≤ mantissa

/-- A sign, if there is one: whether it is a minus. -/
def sign : List Char → Bool × List Char
  | '+' :: rest => (false, rest)
  | '-' :: rest => (true, rest)
  | cs => (false, cs)

/-- The fraction after a point, if there is one. -/
def fraction : Reader (Option (List Char))
  | '.' :: rest => do
    let (cs, rest) ← digits isDigit rest
    return (some cs, rest)
  | cs => some (none, cs)

/-- The exponent after its letter, if there is one. -/
def exponent (cs : List Char) : Option (Option Int × List Char) :=
  let signed (cs : List Char) : Option (Option Int × List Char) := do
    let (negative, cs) := sign cs
    let (cs, rest) ← digits isDigit cs
    let value : Int := spelled 10 cs
    return (some (if negative then -value else value), rest)
  match cs with
  | 'e' :: rest => signed rest
  | 'E' :: rest => signed rest
  | cs => some (none, cs)

/-- A number in the decimal system: an integer, or with a fraction or an exponent. -/
inductive Decimal
  | integer (value : Int)
  | fractional
deriving DecidableEq, Repr

/-- The digits of a decimal number, after its sign. -/
def unsignedDecimal (negative : Bool) : Reader Decimal := fun cs => do
  let (whole, rest) ← wholePart cs
  let (after, rest) ← fraction rest
  let (power, rest) ← exponent rest
  if after.isNone && power.isNone then
    let value : Int := spelled 10 whole
    let value ← bounded (if negative then -value else value)
    return (.integer value, rest)
  else
    let tail := after.getD []
    if !negative && overflows (spelled 10 (whole ++ tail)) (power.getD 0 - tail.length) then
      none
    else
      return (.fractional, rest)

/-- The two numbers that have names. -/
def namedNumber? : List Char → Option (List Char)
  | 'i' :: 'n' :: 'f' :: rest => some rest
  | 'n' :: 'a' :: 'n' :: rest => some rest
  | _ => none

/-- An integer in another base, after its mark. -/
def inBase (base : Nat) (digit : Char → Bool) : Reader Int := fun cs => do
  let (cs, rest) ← digits digit cs
  let value ← bounded (spelled base cs)
  return (value, rest)

/-- A number of any form. -/
def number (cs : List Char) : Option (Decimal × List Char) :=
  match cs with
  | '0' :: 'x' :: rest => (inBase 16 (fun c => (hexValue? c).isSome) rest).map wrap
  | '0' :: 'o' :: rest => (inBase 8 (fun c => '0' ≤ c && c ≤ '7') rest).map wrap
  | '0' :: 'b' :: rest => (inBase 2 (fun c => c == '0' || c == '1') rest).map wrap
  | cs =>
    let (negative, rest) := sign cs
    match namedNumber? rest with
    | some rest => some (.fractional, rest)
    | none => unsignedDecimal negative rest
where
  wrap : Int × List Char → Decimal × List Char
    | (value, rest) => (.integer value, rest)

/-- A number of exactly `count` digits, between two bounds. -/
def fixed (count least most : Nat) : Reader Nat := fun cs =>
  let front := cs.take count
  let value := spelled 10 front
  if front.length = count ∧ front.all isDigit ∧ least ≤ value ∧ value ≤ most then
    some (value, cs.drop count)
  else
    none

/-- What is left after a given character. -/
def expect (c : Char) : List Char → Option (List Char)
  | d :: rest => if d = c then some rest else none
  | [] => none

/-- How many days a month has. -/
def daysIn (year month : Nat) : Nat :=
  if month = 2 then
    if year % 4 = 0 ∧ (year % 100 ≠ 0 ∨ year % 400 = 0) then 29 else 28
  else if month = 4 ∨ month = 6 ∨ month = 9 ∨ month = 11 then 30
  else 31

/-- What is left after a date. -/
def date? (cs : List Char) : Option (List Char) := do
  let (year, cs) ← fixed 4 0 9999 cs
  let (month, cs) ← fixed 2 1 12 (← expect '-' cs)
  let (_, cs) ← fixed 2 1 (daysIn year month) (← expect '-' cs)
  return cs

/-- What is left after a time of day. A minute may have a leap second. -/
def time? (cs : List Char) : Option (List Char) := do
  let (_, cs) ← fixed 2 0 23 cs
  let (_, cs) ← fixed 2 0 59 (← expect ':' cs)
  let (_, cs) ← fixed 2 0 60 (← expect ':' cs)
  match cs with
  | '.' :: rest =>
    let part := rest.takeWhile isDigit
    if part.isEmpty then none else return rest.dropWhile isDigit
  | rest => return rest

/-- What is left after the offset of a time, if there is one. -/
def offset? (cs : List Char) : Option (List Char) :=
  let clock (cs : List Char) : Option (List Char) := do
    let (_, cs) ← fixed 2 0 23 cs
    let (_, cs) ← fixed 2 0 59 (← expect ':' cs)
    return cs
  match cs with
  | 'Z' :: rest => some rest
  | 'z' :: rest => some rest
  | '+' :: rest => clock rest
  | '-' :: rest => clock rest
  | rest => some rest

/-- Whether the characters start with `count` digits and then `mark`. -/
def startsWithDigits (count : Nat) (mark : Char) (cs : List Char) : Bool :=
  (cs.take count).length = count && (cs.take count).all isDigit && (cs.drop count).head? == some mark

/-- Whether a date, or a time of day, starts here. -/
def startsMoment (cs : List Char) : Bool :=
  startsWithDigits 4 '-' cs || startsWithDigits 2 ':' cs

/-- What is left after a time that follows a date, with its offset; a date may stand alone. -/
def timeAfterDate? (cs : List Char) : Option (List Char) :=
  match cs with
  | [] => some []
  | c :: rest =>
    if (c == 'T' || c == 't' || c == ' ') && startsWithDigits 2 ':' rest then
      (time? rest).bind offset?
    else
      some (c :: rest)

/-- What is left after a date, a time of day, or both with or without an offset. -/
def moment? (cs : List Char) : Option (List Char) :=
  if startsWithDigits 4 '-' cs then (date? cs).bind timeAfterDate? else time? cs

end MockSsh.Toml
